/-!
# Zone histories, part 3

Histories 162 to 238 of the zone table, each as text: the local time types (offset in
seconds east of UTC and a daylight-saving flag), the transitions (a UTC second, as a
difference from the one before after the first, and the type that starts there) and the
rule for times after the last transition. Offsets and seconds are written in base 64, with
the digits `0`-`9`, `A`-`Z`, `a`-`z`, `+` and `/`. A pair of transitions that comes several
times in a row is written once, its second item followed by `*` and the number of times.
-/

namespace Autoresponder.Time.Table

/-- Zone histories 162 to 238. -/
def part3 : List String := [
  "-3Eu,0 -3F4,0 -3Eq,0 -34u,0 -2em,0|-1k+d58:1 j9BqC:2 KD+3m:3 19N0K4:4 1aGSv7:4|<-03>3",
  "-6aI,0 -5HW,1 -69m,0 -5HW,1 -69m,0|-2X+/DG:4 10eYtW:1 15Cpm:2 onKG:1 15Cpm:2 fxYCG:3 3ZjAC:2 U0QG:3 yJHm:2 gTrhq:1 x+Bm:2|MST7",
  "-4FG,0 -4Ey,0 -3X0,1 -4PG,0 -3X0,1 -4PG,0|-2MUE2m:1 ovrAi:3 1yhDJK:2 vgXm:3 x/yG:2 x+Bm:3*4 r5sW:4 15Di0:5 omS0:4*2 15Di0:5 r460:4 12w20:5*2 r460:4 15Di0:5 omS0:4*2 15Di0:5 r460:4 12w20:5*2 D/9lm:2 15Cpm:3 onKG:2 15Cpm:3 A62Om:2 1ERRm:3 fYiG:2*3 1ERRm:3 2ZqUG:2 1ERRm:3 fYiG:2*3 1ERRm:3 hsMG:2 1ERRm:3 fYiG:2*5 1ERRm:3 hsMG:2 1ERRm:3 fYiG:2*4 1ERRm:3 hsMG:2 1ERRm:3 fYiG:2*5 1ERRm:3|EST5EDT,M3.2.0,M11.1.0",
  "-3+G,0 -3X0,1 -4PG,0 -3X0,0 -4PG,0|-1fLNbm:2 XPDzm:1 xVR0:2 y/EG:1 xJ/m:2 VMZeG:1 iqm0:2 1BUU0:1 dtTm:2 1GRmG:1 eCZm:2 1GRmG:1 TfZm:2 KGyoG:1 RLvm:2 1kmOG:1 JRfm:2 1GmsG:1 TfZm:2 1GmsG:1 dYNm:2 1GmsG:1 dtTm:2 XFX2G:1 hqbm:2 19ruG:1 avdm:2 1JPcG:1 Ybzm:2 cL9gG:3 A7eLm:2 jWFi/:2|<-05>5",
  "-3le,0 -2em,1 -3X0,0|-1fLNqO:2 XPDK8:1 xVR0:2 y/EG:1 xJ/m:2 VMZeG:1 iqm0:2 1BUU0:1 dtTm:2 1GRmG:1 eCZm:2 1GRmG:1 TfZm:2 KGyoG:1 RLvm:2 1kmOG:1 JRfm:2 1GmsG:1 TfZm:2 1GmsG:1 dYNm:2 1GmsG:1 dtTm:2 XFX2G:1 hqbm:2 19ruG:1 avdm:2 1JPcG:1 Ybzm:2 1Tz2bF:2|<-04>4",
  "-3tv,0 -3X0,0 -2em,1 -2em,1|-256Mf7:1 1H3vq7:3 6BS6m:2 FFbW:1|AST4",
  "-49y,0 -495,0 -4PG,0 -3X0,0 -3X0,1 -2em,1 -3X0,0 -2em,0|-2MUE84:1 bgIb9:2 CB9uB:1 47/rr:3 1Wuxx:1 FNWO5:4 16CLx:2 oSEG:4 15s/m:2*3 oSEG:4 16C5m:2 oSEG:3 ILKtm:2 K7cG:3 7gljm:4 16tA0:2 Gpo0:3 eMge0:5 mRvm:6 1ETCG:5 fWxm:6 10dGG:5 olZm:6 15EaG:5 olZm:6 17YEG:5 mRvm:6 12wwG:5 r3Dm:6 17YEG:5 mRvm:6 17YEG:5 olZm:6 15EaG:5*2 olZm:6 17YEG:5 mRvm:6*2 17YEG:5 olZm:6 15EaG:5*3 olZm:6 17YEG:5 mRvm:6*2 17YEG:5 x+Bm:6 x/yG:5 olZm:6 15EaG:5 olZm:6 17YEG:5 mRvm:6 +JcG:5 vgXm:6 17YEG:5 olZm:6 15EaG:5*3 olZm:6 17YEG:5 mRvm:6 17YEG:5 tMtm:6 10dGG:5 olZm:6 10dGG:5 +Hrm:6 +JcG:5 olZm:6 17YEG:5 mRvm:6*3 17YEG:5 olZm:6 15EaG:5*2 olZm:6 17YEG:5 mRvm:6 17YEG:5 tMtm:6 10dGG:5 olZm:6 15EaG:5 vgXm:6 +JcG:5 15Cpm:6 YdkG:5 1J2lm:6 fYiG:5 1ERRm:6 hsMG:5 1C7nm:6 hsMG:5 3B0tm:6 U0QG:5 avdm:7 dl7bF:7|<-03>3",
  "-5iK,0 -4PG,1 -5HW,0 -4PG,1 -4PG,1 -4PG,1 -5HW,0|-2R6qzi:2 s7KjC:1 mRvm:2 2zESm:1 10bVm:2 YvK8G:1 hqbm:2 8ENcG:3 6clNm:4 FHM0:2 19ruG:1 olZm:2 10dGG:1 olZm:2 15EaG:1*2 olZm:2 17tKG:1 o5Nm:2 15ZgG:1 olZm:2 15EaG:1*4 olZm:2 17YEG:1 olZm:2 15EaG:1*3 x+Bm:2 x/yG:1 olZm:2 4tUUG:1 mRvm:2 4tUUG:5 +Ik0:6 x/40:5 x/40:6*4 x/40:5 +Ik0:6 x/40:5 x/40:6*4 x/40:5 +Ik0:6 vhQ0:5 +Ik0:6 x/40:5 x/40:6*4 x/40:5 +Ik0:6 vhQ0:5 +Ik0:6 x/40:5 x/40:6*3 r460:5 12w20:6 r460:5 15Di0:6 omS0:5*2 15Di0:6 r460:5 12w20:6*2 r460:5 15Di0:6 omS0:5*2 15Di0:6 r460:5 12w20:6*3 r460:5 15Di0:6 omS0:5*2 15Di0:6 r460:5 12w20:6*2 r460:5 15Di0:6 omS0:5 15Di0:6 omS0:1 15Cpm:2 hsMG:1 1ERRm:2 fYiG:1*2 1ERRm:2 hsMG:1 1ERRm:2 fYiG:1*5 1ERRm:2 hsMG:1 1ERRm:2 fYiG:1*4 1ERRm:2 hsMG:1 1ERRm:2 fYiG:1*5 1ERRm:2 hsMG:1 1ERRm:2 fYiG:1*4 1ERRm:2 hsMG:1 1ERRm:2 fYiG:1*5 1ERRm:2|CST6CDT,M3.2.0,M11.1.0",
  "0,0 -4PG,1 -5HW,0 -4PG,0 -5HW,0|-OSv80:2 Sr9s0:1 x+Bm:2 x/yG:1*4 +Hrm:2 viIG:1 +Hrm:2 x/yG:1 x+Bm:2*4 x/yG:1 +Hrm:2 viIG:1 +Hrm:2 x/yG:1 x+Bm:2*3 r4+G:1 12v9m:2 r4+G:1 15Cpm:2 onKG:1*2 15Cpm:2 r4+G:1 12v9m:2*2 r4+G:1 15Cpm:2 onKG:1*2 15Cpm:2 r4+G:1 12v9m:2*3 r4+G:1 15Cpm:2 onKG:1 15Cpm:3 onKG:1 15Cpm:2 r4+G:1 12v9m:2*2 r4+G:1 15Cpm:2 onKG:1*2 15Cpm:2 hsMG:1 1ERRm:2 fYiG:1*2 1ERRm:2 hsMG:1 1ERRm:2 fYiG:1*5 1ERRm:2 hsMG:1 1ERRm:2 fYiG:1*4 1ERRm:2 hsMG:1 1ERRm:2 fYiG:1*5 1ERRm:2 hsMG:1 1ERRm:2 fYiG:1*4 1ERRm:2 hsMG:1 1ERRm:2 fYiG:1*5 1ERRm:2|CST6CDT,M3.2.0,M11.1.0",
  "-22u,0 -1mW,1 -2em,0|-1fLPX8:2 XPE8e:1 xVR0:2 y/EG:1 xJ/m:2 VMZeG:1 iqm0:2 1BUU0:1 dtTm:2 1GRmG:1 eCZm:2 1GRmG:1 TfZm:2 KGyoG:1 RLvm:2 1kmOG:1 JRfm:2 1GmsG:1 TfZm:2 1GmsG:1 dYNm:2 1GmsG:1 dtTm:2 XFX2G:1 hqbm:2 19ruG:1 avdm:2 1JPcG:1 Ybzm:2 1J4WG:1 Ybzm:2 1LOAG:1 dDHm:2 I8V+G:1 mRvm:2 19ruG:1 2Inm:2 1t/0G:1 fWxm:2 13aF5V:2|<-03>3",
  "-68S,0 -5HW,1 -69m,0 -5HW,1 -5HW,1 -5HW,0|-1v0cpa:2 Nknnq:1 10bVm:2 LgaXm:1 olZm:2 15EaG:1*2 olZm:2 17YEG:1 mRvm:2 17YEG:1 olZm:2 4kFsG:1 x+Bm:2 x/yG:1 vgXm:2 +JcG:1 x+Bm:2*2 x/yG:1 x+Bm:2 dbum:3 6ckVW:4 FIEG:2 10dGG:1 x+Bm:2 10dGG:1 olZm:2 15EaG:1*2 olZm:2 17YEG:1 mRvm:2 17YEG:1 olZm:2 15EaG:1*4 olZm:2 17YEG:1 olZm:2 15EaG:1 olZm:2 2zCiG:1 x+Bm:2 x/yG:5|CST6",
  "0,0 -4PG,1 -5HW,0 -4PG,0 -5HW,0|-g17w0:2 kPOe0:1 x+Bm:2 x/yG:1*4 +Hrm:2 viIG:1 +Hrm:2 x/yG:1 x+Bm:2*4 x/yG:1 +Hrm:2 viIG:1 +Hrm:2 x/yG:1 x+Bm:2*3 r4+G:1 12v9m:2 r4+G:1 15Cpm:2 onKG:1*2 15Cpm:2 r4+G:1 12v9m:2*2 r4+G:1 15Cpm:2 onKG:1*2 15Cpm:2 r4+G:1 12v9m:2*3 r4+G:1 15Cpm:2 onKG:1 15Cpm:3 onKG:1 15Cpm:2 r4+G:1 12v9m:2*2 r4+G:1 15Cpm:2 onKG:1*2 15Cpm:3 hsMG:1 1ERRm:2 fYiG:1*2 1ERRm:2 hsMG:1 1ERRm:2 fYiG:1*5 1ERRm:2 hsMG:1 1ERRm:2 fYiG:1*4 1ERRm:2 hsMG:1 1ERRm:2 fYiG:1*5 1ERRm:2 hsMG:1 1ERRm:2 fYiG:1*4 1ERRm:2 hsMG:1 1ERRm:2 fYiG:1*5 1ERRm:2|CST6CDT,M3.2.0,M11.1.0",
  "-3D8,0 -2em,1 -3X0,0 -2em,0|-1fLOMu:2 XPDse:1 xVR0:2 y/EG:1 xJ/m:2 VMZeG:1 iqm0:2 1BUU0:1 dtTm:2 1GRmG:1 eCZm:2 1GRmG:1 TfZm:2 KGyoG:1 RLvm:2 1kmOG:1 JRfm:2 1GmsG:1 TfZm:2 1GmsG:1 dYNm:2 1GmsG:1 dtTm:2 XFX2G:1 hqbm:2 19ruG:1 avdm:2 1JPcG:1 Ybzm:2 cL9gG:3 tduw/:3|<-03>3",
  "-495,0 -495,0 -4PG,0 -3X0,0 -3X0,1 -2em,1 -2em,1 -3X0,0|-2MUE8x:1 bgIc0:2 CB9uB:1 47/rr:3 1Wuxx:1 FNWO5:4 16CLx:2 oSEG:4 15s/m:2*3 oSEG:4 16C5m:2 oSEG:3 ILKtm:2 K7cG:3 7RwVm:5 EqLm:4 16u2G:2 Gpo0:3 eMge0:6 mRvm:7 1ETCG:6 fWxm:7 10dGG:6 olZm:7 15EaG:6 olZm:7 17YEG:6 mRvm:7 12wwG:6 r3Dm:7 17YEG:6 mRvm:7 17YEG:6 olZm:7 15EaG:6*2 olZm:7 17YEG:6 mRvm:7*2 17YEG:6 olZm:7 15EaG:6*3 olZm:7 17YEG:6 mRvm:7*2 17YEG:6 x+Bm:7 x/yG:6 olZm:7 15EaG:6 olZm:7 17YEG:6 mRvm:7 +JcG:6 vgXm:7 17YEG:6 olZm:7 15EaG:6*3 olZm:7 17YEG:6 mRvm:7 17YEG:6 tMtm:7 10dGG:6 olZm:7 10dGG:6 +Hrm:7 +JcG:6 olZm:7 17YEG:6 mRvm:7*3 17YEG:6 olZm:7 15EaG:6*2 olZm:7 17YEG:6 mRvm:7 17YEG:6 tMtm:7 10dGG:6 olZm:7 15EaG:6 vgXm:7 +JcG:6 15Cpm:7 YdkG:6 1J2lm:7 fYiG:6 1ERRm:7 hsMG:6 1C7nm:7 hsMG:6 3B0tm:7 U0QG:6 1Pzjm:7*2 U0QG:6 1ERRm:7 onKG:6 15Cpm:7*3 r4+G:6 12v9m:7 onKG:6 17WTm:7 onKG:6 15Cpm:7*4 onKG:6 17WTm:7 mTgG:6 17WTm:7 onKG:6 15Cpm:7*4 onKG:6 17WTm:7 mTgG:6 17WTm:7 onKG:6 15Cpm:7 onKG:6 iU+/:6|<-04>4<-03>,M9.1.6/24,M4.1.6/24",
  "-468,0 -46W,0 -3X0,1 -4PG,0 -3z8,1 -3X0,0|-2MUEBu:1 1HM2LO:3 /AGbm:2 dtTm:3 502wG:4 cudu:3 1H5W8:4 Sgju:3 1Td48:4 R1Fu:3 1Syu8:4 RhRu:3 1SIi8:4 S0Xu:3 1Rzc8:5 mwoQG:3 BYI0:5|AST4",
  "-2kq,0 -1mW,1 -2em,0|-1fLOrC:2 XPDSi:1 xVR0:2 y/EG:1 xJ/m:2 VMZeG:1 iqm0:2 1BUU0:1 dtTm:2 1GRmG:1 eCZm:2 1GRmG:1 TfZm:2 K1TOG:1 grJm:2 1kmOG:1 JRfm:2 1GmsG:1 TfZm:2 1GmsG:1 dYNm:2 1GmsG:1 dtTm:2 XFX2G:1 hqbm:2 19ruG:1 avdm:2 1JPcG:1 Ybzm:2 1J4WG:1 Ybzm:2 1LOAG:1 dDHm:2 1J4WG:1 dDHm:2 1GmsG:1 avdm:2 1LOAG:1 WIJm:2 1LOAG:1 fWxm:2 1ETCG:1*2 dDHm:2 1ETCG:1 hqbm:2 1CUeG:1 m6pm:2 19ruG:1 hqbm:2 19ruG:1 mRvm:2 19ruG:1 hqbm:2 1ETCG:1 fWxm:2 1LOAG:1 Ybzm:2 1GmsG:1 dDHm:2 1M2MG:1 aFRm:2 1ETCG:1 fWxm:2 1LOAG:1 avdm:2 1C9YG:1 fWxm:2 1GmsG:1 dDHm:2 1GmsG:1 fWxm:2 1ETCG:1*2 hqbm:2 1ETCG:1 dDHm:2 1GmsG:1*2 fWxm:2 1ETCG:1*3 fWxm:2 1LOAG:1 Ybzm:2 Zbp/V:2|<-03>3",
  "-1IO,0 -1mW,0 -uG,1 -1mW,0 -uG,0 0,1 0,1 -uG,1 -1mW,0|-1aVxFe:1 1tpI8e:2 vhQ0:3 xzJW:6 x+Bm:4 x/40:5 x/40:4*2 x/40:5 +Ik0:4 x/40:5 x/40:4*5 x/40:5 +Ik0:4 x/40:5 x/40:4*5 +Ik0:5 15Di0:4 omS0:5*3 17XM0:4 mSo0:5*2 17XM0:4 omS0:5 15Di0:4*2 omS0:5 17XM0:4 mSo0:5*3 17XM0:4 omS0:5 15Di0:4*2 omS0:5 17XM0:4 mSo0:5*2 17XM0:4 omS0:5 15Di0:4*3 omS0:5 17XM0:4 mSo0:5*2 17XM0:4 omS0:5 15Di0:4*2 omS0:5 17XM0:4 mSo0:5*2 17XM0:4 omS0:7 15Di0:8*3 omS0:7 17XM0:8 mSo0:7*2 17XM0:8 omS0:7 15Di0:8*2 omS0:7 17XM0:8 mSo0:7*3 17XM0:8 omS0:7 15Di0:8*2 SO1l:8|<-02>2<-01>,M3.5.0/-1,M10.5.0/0",
  "DAd,0 -7xP,0 -720,0 -69m,1 -69m,1 -69m,1 -7wG,0 -720,1 -7wG,0|-30FG8l:1 zn3N8:2 1E0US7:3 6cjdG:4 FJ6W:2 iLo4G:5 x+Bm:2 x/yG:5*2 +Hrm:2 x/yG:5 x+Bm:2*2 N5SG:5 1Wuhm:2 dF2G:5 1Gl5m:2 x/yG:5 +Hrm:2 viIG:5 +Hrm:2 x/yG:5 x+Bm:2*4 x/yG:5 +Hrm:2 viIG:5 +Hrm:6 ADw0:8 nowW:7 x+Bm:8 x/yG:7*2 x+Bm:8 r4+G:7 12v9m:8 r4+G:7 15Cpm:8 onKG:7*2 15Cpm:8 r4+G:7 12v9m:8*2 r4+G:7 15Cpm:8 onKG:7*2 15Cpm:8 r4+G:7 12v9m:8*3 r4+G:7 15Cpm:8 onKG:7*2 15Cpm:8 r4+G:7 12v9m:8*2 r4+G:7 15Cpm:8 onKG:7*2 15Cpm:8 hsMG:7 1ERRm:8 fYiG:7*2 1ERRm:8 hsMG:7 1ERRm:8 fYiG:7*5 1ERRm:8 hsMG:7 1ERRm:8 fYiG:7*4 1ERRm:8 hsMG:7 1ERRm:8 fYiG:7*5 1ERRm:8 hsMG:7 1ERRm:8 fYiG:7*4 1ERRm:8 hsMG:7 1ERRm:8 fYiG:7*5 1ERRm:8|AKST9AKDT,M3.2.0,M11.1.0",
  "-35i,0 -2DS,1 -35i,0 -2Ce,1 -34u,0 -2Ce,1 -2Ce,1 -1KO,1 -2Ce,1|-2XmiiK:2 +aYqW:1 rOJm:2 14vUG:1 10bVm:2 +x9W:1 WdPm:2 1N1eG:1 x+Bm:2 x/yG:1 x+Bm:2 +JcG:1 vgXm:2*4 +JcG:1 x+Bm:2 x/yG:1 x+Bm:2 +JcG:1 vgXm:2*4 +JcG:1 x+Bm:2 +JcG:1 vgXm:2*2 o80W:4 CBay:3 vgXm:4 10e8W:3 mRvm:4 17YEG:3*2 mRvm:4 19ruG:3 k8Fm:4 19ruG:3 mRvm:4 17YEG:3 mRvm:4 17YEG:6 68pou:5 FF9O:4 19ruG:3 mRvm:4 17YEG:3*3 mRvm:4 19ruG:3 mRvm:4 12wwG:3 olZm:4 15EaG:3*4 olZm:4 17YEG:3 olZm:4 15EaG:3*4 +Hrm:4 x/yG:3 x+Bm:4*4 x/yG:3 +Hrm:4 viIG:3 +Hrm:4 x/yG:3 x+Bm:4*4 x/yG:3 +Hrm:4 x/yG:3 x+Bm:4*4 x/yG:3 +Hrm:4 viIG:3 +Hrm:4 x/yG:3 x+Bm:4*4 x/yG:3 +Hrm:4 viIG:3 +Hrm:4 x/yG:3 x+Bm:4*3 r3Ei:3 12v9m:4 r4+G:7 15BxW:4 ooCW:3 15Cpm:4 onKG:3 15Cpm:4 r4+G:3 12v9m:4*2 r4+G:3 15Cpm:4 onKG:3*2 15Cpm:4 r4+G:3 12v9m:4*3 r4+G:3 15Cpm:4 onKG:3*2 15Cpm:4 r4+G:3 12v9m:4*2 r4+G:3 15Cpm:4 onKG:3*2 15Cpm:4 hsMG:3 1ERRm:4 fYiG:3*2 1ERRm:4 hsMG:3 1ERRm:4 fYiG:3 1ETBK:4 fYiG:3 1ERRm:4*4 hsMG:3 1ERRm:4 fYiG:3*4 1ERRm:4 hsMG:3 1ERRm:4 fYiG:3*5 1ERRm:4 hsMG:3 1ERRm:4 fYiG:3*4 1ERRm:4 hsMG:3 1ERRm:4 fYiG:3*5 1ERRm:4|NST3:30NDT,M3.2.0,M11.1.0",
  "-3hC,0 -3X0,0|-1ioCiq:1|AST4",
  "-3am,0 -3am,0 -3X0,0|-2MUEjG:1 fNxC0:2|AST4",
  "-3pW,0 -3X0,0|-1k2yYW:1|AST4",
  "-3be,0 -3be,0 -3X0,0|-2MUEiO:1 fNxC0:2|AST4",
  "-6KO,0 -5HW,1 -69m,0 -5HW,1 -5HW,1 -5HW,0|-1v0cde:2 Nknbu:1 10bVm:2 hpWKG:3 6ckVW:4 FIEG:2 15EaG:1 tMtm:2 10dGG:1 olZm:2 15EaG:1*2 olZm:2 EHemG:1 x+Bm:2 2p+4G:1 x+Bm:2 x/yG:1 olZm:2 17YEG:1 mRvm:2 JxsoG:5|CST6",
  "-574,0 -4PG,1 -5HW,0|-1RixIy:2 1yJf6S:1 mRvm:2 17YEG:1 mRvm:2 X8G+G:1 UJlm:2|CST6",
  "-41y,0 -2em,1 -3X0,0|-1aVuW4:2 2CTGBa:1 x+Bm:2 x/yG:1 x+Bm:2 +JcG:1 15Cpm:2 onKG:1*2 15Cpm:2 r4+G:1 12v9m:2*3 r4+G:1 15Cpm:2 onKG:1*2 15Cpm:2 r4+G:1 12v9m:2*2 r4+G:1 15Cpm:2 onKG:1*2 15Cpm:2 hsMG:1 1ERRm:2 fYiG:1*2 1ERRm:2 hsMG:1 1ERRm:2 fYiG:1*5 1ERRm:2 hsMG:1 1ERRm:2 fYiG:1*4 1ERRm:2 hsMG:1 1ERRm:2 fYiG:1*5 1ERRm:2 hsMG:1 1ERRm:2 fYiG:1*4 1ERRm:2 hsMG:1 1ERRm:2 fYiG:1*5 1ERRm:2|AST4ADT,M3.2.0,M11.1.0",
  "-3oK,0 -3X0,0|-1k2yZi:1|AST4",
  "-7Di,0 -69m,1 -720,0 -69m,1 -69m,1|-2XmeaK:2 10UqQq:1 10bVm:2 hpWKG:3 6cjdG:4 FJ6W:2 15EaG:1 olZm:2*4 17YEG:1 mRvm:2 17YEG:1 olZm:2 15EaG:1*4 olZm:2 17YEG:1 olZm:2 15EaG:1*4 olZm:2 17YEG:1 mRvm:2 17YEG:1 x+Bm:2 x/yG:1*3 +Hrm:2 viIG:1 +Hrm:2 x/yG:1 x+Bm:2*4 x/yG:1 +Hrm:2 x/yG:1 x+Bm:2*4 x/yG:1 +Hrm:2 viIG:1 +Hrm:2 x/yG:1 x+Bm:2*4 x/yG:1 +Hrm:2 viIG:1 +Hrm:2 x/yG:1 x+Bm:2*3 r4+G:1 12v9m:2 r4+G:1 15Cpm:2 onKG:1*2 15Cpm:2 r4+G:1 12v9m:2*2 r4+G:1 15Cpm:2 onKG:1*2 15Cpm:2 r4+G:1 12v9m:2*3 r4+G:1 15Cpm:2 onKG:1*2 15Cpm:2 r4+G:1 12v9m:2*2 r4+G:1 15Cpm:2 onKG:1*2 15Cpm:2 hsMG:1 1ERRm:2 fYiG:1*2 1ERRm:2 hsMG:1 1ERRm:2 fYiG:1*5 1ERRm:2 hsMG:1 1ERRm:2 fYiG:1*4 1ERRm:2 hsMG:1 1ERRm:2 fYiG:1*5 1ERRm:2 hsMG:1 1ERRm:2 fYiG:1*4 1ERRm:2 hsMG:1 1ERRm:2 fYiG:1*5 1ERRm:2|PST8PDT,M3.2.0,M11.1.0",
  "-7wS,0 -720,1 -7wG,0 -720,1 -720,1 -69m,1 -720,0 -69m,1 -69m,0|-22UNLa:2 XCa4K:1 10bVm:2 15EaG:1 qiNG:2 fvbOm:3 6cil0:4 FJ+m:2 apa9m:5 +Ik0:2 dEA0:6 Qe+sG:7 x+Bm:6 x/yG:7*2 +Hrm:6 viIG:7 +Hrm:6 x/yG:7 x+Bm:6*3 r4+G:7 12v9m:6 r4+G:7 15Cpm:6 onKG:7*2 15Cpm:6 r4+G:7 12v9m:6*2 r4+G:7 15Cpm:6 onKG:7*2 15Cpm:6 r4+G:7 12v9m:6*3 r4+G:7 15Cpm:6 onKG:7*2 15Cpm:6 r4+G:7 12v9m:6*2 r4+G:7 15Cpm:6 onKG:7*2 15Cpm:6 hsMG:7 1ERRm:6 fYiG:7*2 1ERRm:6 hsMG:7 1ERRm:6 fYiG:7*5 1ERRm:6 hsMG:7 1ERRm:6 fYiG:7*4 1EPhG:8|MST7",
  "Cw1,0 -8B/,0 -7wG,0 -720,1 -720,1 -720,1 -720,1 -7wG,0|-30FG8l:1 zn3dk:2 1E0V3n:3 6cil0:4 FJ+m:2 iLo4G:5 x+Bm:2 x/yG:5*2 +Hrm:2 x/yG:5 x+Bm:2*2 N5SG:5 1Wuhm:2 dF2G:5 1Gl5m:2 x/yG:5 +Hrm:2 viIG:5 +Hrm:2 x/yG:5 x+Bm:2*4 x/yG:5 +Hrm:2 viIG:5 +Hrm:2 AD1m:7 nowW:6 x+Bm:7 x/yG:6*2 x+Bm:7 r4+G:6 12v9m:7 r4+G:6 15Cpm:7 onKG:6*2 15Cpm:7 r4+G:6 12v9m:7*2 r4+G:6 15Cpm:7 onKG:6*2 15Cpm:7 r4+G:6 12v9m:7*3 r4+G:6 15Cpm:7 onKG:6*2 15Cpm:7 r4+G:6 12v9m:7*2 r4+G:6 15Cpm:7 onKG:6*2 15Cpm:7 hsMG:6 1ERRm:7 fYiG:6*2 1ERRm:7 hsMG:6 1ERRm:7 fYiG:6*5 1ERRm:7 hsMG:6 1ERRm:7 fYiG:6*4 1ERRm:7 hsMG:6 1ERRm:7 fYiG:6*5 1ERRm:7 hsMG:6 1ERRm:7 fYiG:6*4 1ERRm:7 hsMG:6 1ERRm:7 fYiG:6*5 1ERRm:7|AKST9AKDT,M3.2.0,M11.1.0",
  "0,0 720,0 9gm,0 720,0|-1uJE0:1 1CkpcW:2 jSJG:1 36T4m:2 cZ5m:3 8nctm:2 2cTEG:1 15GKm:2 r0b0:1 12IUm:2 pN/G:1 15Diy:2 r1SK:1 12yhi:2*2 q4p4:1 Rzqx/:1|<+08>-8",
  "0,0 69m,0 4PG,0 69m,0|-OOy00:1 EgvyG:0 7/ylm:1 1Cacam:2 lUOG:3 34Q/m:2 casG:3 ml0W/:3|<+07>-7",
  "0,0 8oW,0|-hGuc0:1 9T+dW:0 91w8W:1 2Om/r/:1|<+10>-10",
  "0,0 8oW,0 9gm,1 8oW,0 0,0 9gm,1 8oW,0|-23+ke0:1 Vq6A0:2 vhQ0:3 3ouLW:4 sXBEW:1 ajYK0:5 x/40:3 15Di0:5 hrU0:3 1C8g0:5*2 k980:3 1C8g0:5 dEA0:3 1Gl+0:5 fXq0:3 1ESK0:5*3 hrU0:3 1ESK0:5 fXq0:3*5 1ESK0:5 omS0:3 17XM0:5 mSo0:3 17XM0:5 fXq0:3 1ESK0:5*2 fXq0:3 1C8g0:5 mSo0:3 19r00:5*2 k980:3 19r00:5*2 omS0:3 +Ik0:5 vhQ0:3*4 +Ik0:5 x/40:3 +Ik0:5 vhQ0:3*4 omS0:5 15Di0:3 10cO0:5 vhQ0:3 +Ik0:5*4 x/40:3 x/40:5 vhQ0:3 10cO0:5 x/40:3 x/40:5*2 2pzC0:3 x/40:5 x/40:3 +Ik0:5 x/40:3 x/40:5*5 x/40:3 +Ik0:5 x/40:3 x/40:5*5 +Ik0:3 x/40:5 x/40:3*5 +Ik0:5 x/40:3 x/40:5*5 x/40:3 +Ik0:5 x/40:3 x/40:5*2|AEST-10AEDT,M10.1.0,M4.1.0/3",
  "0,0 5HW,0 4PG,0|-Ttys0:1 1ekU/0:2 r9Ts/:2|<+05>-5",
  "0,0 BRG,1 AZ0,0 AZ0,0|-QLXS0:3 ZRnJW:1 awW0:2 1Gl+0:1 hrU0:2 1ESK0:1 fXq0:2*5 1ESK0:1 hrU0:2 1ESK0:1 fXq0:2*5 1ESK0:1 hrU0:2 1ESK0:1 fXq0:2 17XM0:1 r460:2 12w20:1*3 tNm0:2 10cO0:1*3 tNm0:2 12w20:1 r460:2*2 12w20:1 tNm0:2 10cO0:1*2 tNm0:2 12w20:1 r460:2*2 12w20:1 tNm0:2 10cO0:1*4 +Ik0:2 vhQ0:1*4 +Ik0:2 x/40:1 +Ik0:2 vhQ0:1*5 +Ik0:2 x/40:1 +Ik0:2 vhQ0:1*5 10cO0:2 vhQ0:1 +Ik0:2*5 x/40:1 +Ik0:2 vhQ0:1*5 +Ik0:2 x/40:1 +Ik0:2 vhQ0:1*2|NZST-12NZDT,M9.5.0,M4.1.0/3",
  "0,0 -3X0,0 -2em,1 -1mW,1 -2em,0 -2em,1 -3X0,0 -2em,0|-9PrC0:2 JVAm:1 1BAGG:2 j8zm:1 1BAGG:2 thzm:1 x/yG:2 +Hrm:1 x/yG:2 x+Bm:1 x/yG:4 85nPm:3 WIJm:4 F34qG:1 rQ4G:5 olZm:6 15EaG:5 olZm:6 17YEG:5 mRvm:6*2 17YEG:5 x+Bm:6 x/yG:5 olZm:6 15EaG:5 olZm:6 17YEG:5 mRvm:6 +JcG:5 vgXm:6 17YEG:5 olZm:6 15EaG:5*3 olZm:6 17YEG:5 mRvm:6 17YEG:5 tMtm:6 10dGG:5 olZm:6 10dGG:5 +Hrm:6 +JcG:5 olZm:6 17YEG:5 mRvm:6*3 17YEG:5 olZm:6 15EaG:5*2 olZm:6 17YEG:5 mRvm:6 17YEG:5 tMtm:6 10dGG:5 olZm:6 15EaG:5 vgXm:6 +JcG:5 15Cpm:6 YdkG:5 1J2lm:6 fYiG:5 1ERRm:6 hsMG:5 1C7nm:6 hsMG:5 3B0tm:6 U0QG:5 avdm:4 dl7bF:4|<-03>3",
  "0,0 -2em,0|D0Yq0:1 1o/TB/:1|<-03>3",
  "0,0 2em,0|-OJgW0:1 2OJgV/:1|<+03>-3",
  "0,0 1mW,1 0,0 0,0|123KS0:3 EBwG:1 17XM0:2 mSo0:1*2 17XM0:2 omS0:1 15Di0:2*2 omS0:1 17XM0:2 mSo0:1*2 17XM0:2 omS0:1 15Di0:2*3 omS0:1 17XM0:2 mSo0:1*2 17XM0:2 omS0:1 15Di0:2*2 omS0:1 17XM0:2 mSo0:1*2 17XM0:2 omS0:1 15Di0:2*3 omS0:1 17XM0:2 mSo0:1*2 17XM0:2 omS0:1 15Di0:2*2 omS0:1 17XM0:2 mSo0:1*3 17XM0:2 omS0:1 15Di0:2*2 SO1l:2|<+00>0<+02>-2,M3.5.0/1,M10.5.0/3",
  "0,0 69m,0 4PG,0|-MftQ0:1 13zA+G:0 1Q4lm:1 soS0m:2 QWBhF:2|<+05>-5",
  "eK,0 1mW,1 uG,0 uG,0 1mW,1 1mW,1 uG,0|-2D4TkK:2 eERwK:1 h9XW:2 iuj80:1 4B/sm:3 mSo0:4 +Ik0:3 x/40:4 x/40:3*2 PJHc0:4 +Ik0:3 x/40:4 x/40:3*4 x/40:4 +Ik0:3 17XM0:4 mSo0:3 RN760:5 vhQ0:6 x/40:5 x/40:6*3 x/40:5 +Ik0:6 x/40:5 x/40:6*5 x/40:5 +Ik0:6 x/40:5 x/40:6*5 +Ik0:5 15Di0:6 omS0:5*3 17XM0:6 mSo0:5*2 17XM0:6 omS0:5 15Di0:6*2 omS0:5 17XM0:6 mSo0:5*3 17XM0:6 omS0:5 15Di0:6*2 omS0:5 17XM0:6 mSo0:5*2 17XM0:6 omS0:5 15Di0:6*3 omS0:5 17XM0:6 mSo0:5*2 17XM0:6 omS0:5 15Di0:6*2 omS0:5 17XM0:6 mSo0:5*2 17XM0:6 omS0:5 15Di0:6*3 omS0:5 17XM0:6 mSo0:5*2 17XM0:6 omS0:5 15Di0:6*2 omS0:5 17XM0:6 mSo0:5*3 17XM0:6 omS0:5 15Di0:6*2|CET-1CEST,M3.5.0,M10.5.0/3",
  "2eg,0 2em,0|-bdiUg:1 2bdiUf:1|<+03>-3",
  "4Wa,0 4PG,0 69m,1 5HW,0 5HW,0 69m,1 5HW,1 4PG,0 69m,1|-1LveGa:1 BYdDK:3 1VWuvm:2 yJHm:3 x/yG:2*2 yJHm:3 yL2G:2 y0qW:4 x/40:5 x/40:4*5 x/40:5 +Ik0:4 x/40:6 x/yG:7 awW0:4 N3hm:5 x/40:4 x/40:5*3 x/40:4 +Ik0:5 15Di0:4 omS0:5*3 17XM0:4 mSo0:5*2 17XM0:4 omS0:5 15Di0:4*2 omS0:5 17XM0:4 aNDDW:1 Q7pdV:1|<+05>-5",
  "26m,0 2em,1 1mW,0 1mW,0 2em,1 2em,0|-19N2am:2 1FpgCG:1 cZ5m:2 15umG:1 oQTm:2*2 16DsG:1 yeNm:2 xgsG:1 oQTm:2 15ZgG:1 oQTm:2 CEoYG:1 yJHm:2 y/EG:1 x+Bm:2 x/yG:1*2 +Hrm:2 16DsG:1 nmHm:2 12wwG:1 r3Dm:2 /z4G:1 rjPm:2 10dGG:1 vgXm:2 x/yG:1 x+Bm:2 x/yG:1 tMtm:2 12wwG:1 r460:3 12w20:1 tNm0:3 10cO0:1*2 tNm0:3 1UGq0:4 S0+0:3 zze0:4 yKA0:3 xf+0:4 yKA0:3 x/40:1 x/40:3 x/40:1 15Di0:3 omS0:1 12w20:3 tNm0:1 x/40:3 x/40:1 15Di0:3 omS0:1*2 17XM0:3 mSo0:1*2 17XM0:3 omS0:1 15Di0:3 omS0:1 3FeBm:2 WK4G:1 17XM0:3 mSo0:1 17XM0:3 omS0:1 15Di0:3*4 omS0:1 17XM0:3 mSo0:1 17XM0:3 dEA0:1 1Gl+0:5 SfG2V:5|<+03>-3",
  "APa,0 AZ0,0 CJW,1 BRG,0 BRG,1 AZ0,0 BRG,1 AZ0,1 9gm,0 AZ0,0|-1Lvk9a:1 BYcya:3 1VWuvm:2 yJHm:3 x/yG:4 yKA0:1 x/yG:4 yJHm:1 yL2G:4 y0qW:5 x/40:6 x/40:5*5 x/40:6 +Ik0:5 x/40:7 x/yG:8 awW0:5 N3hm:6 x/40:5 x/40:6*3 x/40:5 +Ik0:6 15Di0:5 omS0:6*3 17XM0:5 mSo0:6*2 17XM0:5 omS0:6 15Di0:5*2 omS0:6 17XM0:5 mSo0:6*3 17XM0:5 omS0:6 15Di0:5*2 omS0:7 17YEG:8 mSo0:5 oSW2F:5|<+12>-12",
  "2yW,0 3X0,0 4PG,0 5HW,0 5HW,1 4PG,0 5HW,1 4PG,1 3X0,0 4PG,0|-1LvciW:1 BYcXW:2 1WTD3m:3 x+Bm:4 yKA0:2 x/yG:4 yJHm:2 yL2G:4 y0qW:5 x/40:6 x/40:5*5 x/40:6 +Ik0:5 x/40:7 x/yG:8 awW0:5 N3hm:6 x/40:5 x/40:6*2 x/40:8 x/yG:7 x/40:8 +Ik0:7 15Di0:8 omS0:7*3 17XM0:8 mSo0:7*2 17XM0:8 omS0:7 15Di0:8*2 omS0:7 17XM0:5 +U/4V:5|<+05>-5",
  "3MO,0 3X0,0 4PG,0 5HW,1 5HW,0 4PG,0 5HW,1 4PG,1 3X0,0 5HW,1 4PG,0|-1Lvd6O:1 BYcxO:2 1VWuvm:3 yJHm:4 x/40:3 yKA0:2 x/yG:3 yJHm:2 yL2G:3 y0qW:5 x/40:6 x/40:5*5 x/40:6 +Ik0:5 x/40:7 x/yG:8 awW0:5 N3hm:6 x/40:5 x/40:6*3 x/40:5 +Ik0:6 15Di0:5 omS0:6*3 17XM0:5 mSo0:6*2 17XM0:5 omS0:6 15Di0:5*2 omS0:6 17XM0:5 +U/yl:5|<+05>-5",
  "3Qy,0 3X0,0 5HW,1 4PG,0 4PG,0 5HW,1 4PG,1 3X0,0 4PG,0|-1LvdAy:1 BYc/y:3 1VWuvm:2 yJHm:3 x/yG:2*2 yJHm:3 yL2G:2 y0qW:4 x/40:5 x/40:4*5 x/40:5 +Ik0:4 x/40:6 x/yG:7 awW0:3 1MXroV:3|<+05>-5",
  "32m,0 2em,0 4PG,0 5HW,0 5HW,1 4PG,0 5HW,1 4PG,1 3X0,0 4PG,0|-1Lvcom:1 BYdW0:2 1WTCBW:3 x+Bm:4 yKA0:2 x/yG:4 yJHm:2 yL2G:4 y0qW:5 x/40:6 x/40:5*5 x/40:6 +Ik0:5 x/40:7 x/yG:8 awW0:5 N3hm:6 x/40:5 x/40:6*3 x/40:5 +Ik0:6 15Di0:5 omS0:6*2 15Di0:5 omS0:7 17YEG:8 mSo0:7 17XM0:8*2 omS0:7 15Di0:8*2 omS0:7 17XM0:5 +U/4V:5|<+05>-5",
  "2ca,0 2cW,0 2em,0 3X0,1 2em,0 3X0,1|-2MUKua:1 qgOi4:2 1v02jm:3 oQTm:2 xgsG:3 yeNm:2 yL2G:3 yJHm:2 x/yG:3 xgsG:4 x/40:5 x/40:4*4 x/40:5 +Ik0:4 yLwW:5 yKA0:4 yKA0:5 yKA0:4 x/40:5*3 yKA0:4 yKA0:5 yKA0:4 x/40:5*3 yKA0:4 yKA0:5 yKA0:4 x/40:5*3 yKA0:4 yKA0:5 yKA0:4 x/40:5*3 yKA0:4 u/yT/:4|<+03>-3",
  "2zi,0 34u,0 3X0,0 2em,0|-rX9Di:1 4c+oq:2 rSpbu:3 1xTMq/:3|<+03>-3",
  "2wy,0 2em,0 4PG,1 3X0,0 3X0,0 4PG,1 3X0,1 2em,0 4PG,1 3X0,0|-1Lvcgy:1 zm7SC:3 jJOrm:2 yJHm:3 x/yG:2*2 yJHm:3 yL2G:2 y0qW:4 x/40:5 x/40:4*5 x/40:5 +Ik0:4 x/40:6 x/yG:7 x/40:6 x/40:4 6cEsW:8 15Di0:9 olZm:2 15Di0:3 omS0:2*2 17XM0:3 mSo0:2*2 17XM0:3 omS0:2 15Di0:3*2 omS0:2 17XM0:3 mSo0:2*3 17XM0:3 omS0:2 15Di0:3*2 omS0:2 17XM0:3 mSo0:2*2 17XM0:3 omS0:2 15Di0:3*3 fq+H/:3|<+04>-4",
  "5uy,0 5uy,0 69m,0|-2fINey:1 1Bi+80:2 3TbPWx:2|<+07>-7",
  "4w4,0 5HW,0 720,1 69m,0 69m,0 720,1 69m,1 5HW,0 69m,1 69m,0|-1UAe84:1 JpcCa:3 1VWuvm:2 yJHm:3 x/yG:2*2 yJHm:3 yL2G:2 y0qW:4 x/40:5 x/40:4*5 x/40:5 +Ik0:4 x/40:6 x/yG:7 awW0:4 N3hm:5 x/40:4 x/40:5*3 KkHG:8 dHh0:7 +Ik0:6 15Di0:7 omS0:6*3 17XM0:7 mSo0:6*2 17XM0:7 omS0:6 15Di0:7*2 omS0:6 17XM0:7 mSo0:6*3 17XM0:7 omS0:6 15Di0:7*2 omS0:6 17XM0:7 mSo0:4 6lQrm:7 2glSG:4 f2HM/:4|<+07>-7",
  "258,0 2em,1 1mW,0|-2fIJr8:2 1Bhg4e:1 15Xvm:2 qluG:1 yJHm:2 vNCG:1 10bVm:2 10dGG:1 mRvm:2 /FjEG:1 oQTm:2 15umG:1*2 oQTm:2 16DsG:1 oQTm:2 15umG:1 oQTm:2 KB16G:1 XHbm:2 15umG:1 oQTm:2*3 16DsG:1 oQTm:2 15umG:1 oQTm:2 15ZgG:1 oQTm:2 AWO8G:1 tMtm:2 10yMG:1*3 tMtm:2 1BVMG:1 j8zm:2 13wCG:1 qP1m:2 10yMG:1 tMtm:2*2 11HSG:1 pPlm:2 viIG:1 x+Bm:2 x/yG:1*2 x+Bm:2 +JcG:1 x+Bm:2 x/yG:1*3 17WTm:2 mTgG:1*2 17WTm:2 onKG:1 15Cpm:2*2 onKG:1 17WTm:2 mTgG:1*3 17WTm:2 onKG:1 15Cpm:2*2 onKG:1 17WTm:2 mTgG:1*2 17WTm:2 onKG:1 15Cpm:2*3 onKG:1 17WTm:2 mTgG:1*2 17WTm:2 onKG:1 15Cpm:2*2 onKG:1 17WTm:2 mTgG:1*2 17WTm:2 onKG:1 15Cpm:2*3 onKG:1 17WTm:2 mTgG:1*2 17WTm:2 onKG:1 15Cpm:2*2 onKG:1 17WTm:2 mTgG:1*3 17WTm:2 onKG:1 15Cpm:2*2|EET-2EEST,M3.5.0/0,M10.5.0/0",
  "4Nm,0 4PG,0 69m,1 5HW,0 5HW,0 69m,1 5HW,1 5HW,1|-1Lve7m:1 BYd4W:3 1VWuvm:2 yJHm:3 x/yG:2*2 yJHm:3 yL2G:2 y0qW:4 x/40:5 x/40:4*5 x/40:5 +Ik0:4 x/40:6 oRM0:1 1A9Dm:6 tMtm:1 10dGG:6*4 vgXm:1 y28u:7 15Cpm:1 onKG:7*2 17WTm:1 mTgG:7*2 17WTm:1 onKG:7 15Cpm:1*2 onKG:7 17WTm:1 mTgG:7 jRt8:3 z16tV:3|<+06>-6",
  "6ky,0 6bu,0 720,0|-1ITVsy:1 CtKL4:2 35cBXt:2|<+08>-8",
  "6fW,0 720,0 8oW,1 7wG,0 7wG,0 8oW,1 7wG,1 720,0 8oW,0 8oW,1 7wG,0|-1U90PW:1 JnyjW:3 1VWuvm:2 yJHm:3 x/yG:2*2 yJHm:3 yL2G:2 y0qW:4 x/40:5 x/40:4*5 x/40:5 +Ik0:4 x/40:6 x/yG:7 awW0:4 N3hm:5 x/40:4 x/40:5*3 x/40:4 +Ik0:5 15Di0:4 omS0:5*3 17XM0:4 mSo0:5*2 17XM0:4 omS0:5 15Di0:4*2 omS0:5 17XM0:4 mSo0:5*3 17XM0:4 omS0:5 15Di0:4*2 omS0:5 17XM0:4 mSo0:8 6lQrm:7 2gmKW:3 f2J7V:3|<+09>-9",
  "6Gq,0 69m,0 7wG,1 720,0|-1vB16q:1 28D+v4:3 9tUlm:2 yJHm:3 yL2G:2 x+Bm:3 x/yG:2*6 +Hrm:3 x/yG:2 x+Bm:3*5 +JcG:2 x+Bm:3 x/yG:2*2 x+Bm:3 4tB8m:2 olZm:3 x/yG:2 x+Bm:3*4 x/yG:2 +Hrm:3 F+4cG:2 xyRG:3 y1im:2 xyRG:3 e6hoF:3|<+08>-8",
  "77N,0 7wG,1 720,0|-21oRpN:2 YOLzN:1 uM9m:2 cu5cG:1 i9hm:2 oSEG:1 1CStm:2 ThKG:1 6llxm:2 1K3oG:1 jp9m:2 10dGG:1 11vtm:2 x/yG:1 oQTm:2 15umG:1 8ufm:2 15UDKm:1 hqbm:2 15EaG:1 olZm:2 17YEG:1 mRvm:2 17YEG:1 olZm:2 15EaG:1*2 olZm:2|CST-8",
  "4hS,0 4ha,0 4rO,0 5HW,1 5je,1 5je,0 5HW,0 4rO,0|-2fIMRS:1 mvoFu:2 13l5yC:3 1Emzu:4 5u5IO:2 1VC7/m:5 ol/u:6 Hpke8:2 xm1NN:2|<+0530>-5:30",
  "288,0 2em,1 1mW,0 2em,0|-1U3LI8:2 ZeG8:1 tMtm:2 10dGG:1*3 vgXm:2 18XzGG:1 p4fm:2 15umG:1 o5Nm:2 16YyG:1 oQTm:2 15umG:1 o5Nm:2 13wCG:1 qk7m:2 15umG:1 oQTm:2 16DsG:1 oQTm:2 15umG:1*3 oQTm:2 16DsG:1 oQTm:2 15umG:1*3 oQTm:2 16DsG:1 oQTm:2 15umG:1 eXfm:2 1FnaG:1 eXfm:2 8g3UG:1 vgXm:2 +zoG:1 vgXm:2 2bp2G:1 1DS9m:2 l9IG:1 1GP/m:2 ireG:1 1Bohm:2 no2G:1 yeNm:2 x/yG:1 x+Bm:2 yJHm:1 yJHm:2 +eiG:1 v/dm:2 w1OG:1 yJHm:2 z+WG:1 yJHm:2 x/yG:1 yJHm:2 yL2G:1 yJHm:2 xgsG:1 yeNm:2 xLmG:1 yzTm:2 x/yG:1 yJHm:2 yL2G:1 yJHm:2 x/yG:1*3 yJHm:2 yL2G:1 yJHm:2 x/yG:1*2 vLRm:2 +JcG:1 17WTm:2 onKG:1 15Xvm:2 m8aG:1 17WTm:2 onKG:1 15Cpm:2*4 onKG:1 17WTm:2 mTgG:1*2 17WTm:2 onKG:1 15Cpm:2*3 onKG:1 17WTm:2 mTgG:1*2 17WTm:3 SfGwl:3|<+03>-3",
  "5J4,0 5BG,0 5je,0 4rO,0 5HW,0 69m,1|-2MUNb4:1 1XLF/q:2 1AUfe:3 Zy6G:2 H4v/m:4 1ial5u:5 10HI0:4 qmoTl:4|<+06>-6",
  "7My,0 720,0 7wG,0 720,0 7wG,0|-1j6U80:1 uinJm:2 10KFs0:3 jsMYG:2 16F6R/:2|<+09>-9",
  "3FO,0 3X0,0|-1U3MPO:1 3U3MPN:1|<+04>-4",
  "420,0 4PG,0 69m,1 5HW,0 5HW,0 69m,1 5HW,1 4PG,0|-1Lvdo0:1 BYckm:3 1VWuvm:2 yJHm:3 x/yG:2*2 yJHm:3 yL2G:2 y0qW:4 x/40:5 x/40:4*5 x/40:5 +Ik0:4 x/40:6 rQ4G:7 1NDN2l:7|<+05>-5",
  "1/K,0 2em,1 1mW,0 1mW,0 2em,1 2em,0 1mW,0|-1QYE7K:2 1aTf6q:1 x+Bm:2 17D8G:1 n65m:2 vNCG:1 vgXm:2 +JcG:1 yJHm:2 xgsG:1 x+Bm:2 +JcG:1 vgXm:2 x/yG:1 x+Bm:2*3 x/yG:1 +Hrm:2 x/yG:1 x+Bm:2*5 x/yG:1 +Hrm:2 x/yG:1 x+Bm:2*5 +JcG:1 x+Bm:2 x/yG:1*2 15GKm:3 omS0:4 17XM0:3 mSo0:4*2 17XM0:3 omS0:4 15Di0:3*2 omS0:4 17XM0:3 mSo0:4*3 17XM0:3 omS0:4 15Di0:3*2 omS0:4 17XM0:3 mSo0:4*2 17XM0:3 omS0:4 15Di0:3*3 omS0:4 sKz0:5 29AX0:3 mSo0:4 17XM0:3 omS0:4 15Di0:3*2 omS0:4 17XM0:3 mSo0:4*2 17XM0:3 omS0:4 15Di0:3*3 omS0:4 17XM0:3 mSo0:4*2 17XM0:3 omS0:4 15Di0:3*2 omS0:4 17XM0:3 mSo0:4*3 17XM0:3 omS0:4 15Di0:3*2|EET-2EEST,M3.5.0/3,M10.5.0/4",
  "21G,0 2em,1 1mW,0 1mW,0 2em,1 2em,1 1mW,0 2em,1 1mW,0 1mW,0|-22GhLG:3 1Ad8HG:1 eDS0:2 FVQ0:1 3hKy0:2 nnA0:1 16Y40:2 o6G0:1 16Y40:2 sja0:1 11bg0:2*2 JobXW:4 lSdm:3 15umG:4 oQTm:3 15veW:4 o78G:3 16XBm:4 o78G:3 16C5m:4*3 o78G:3 16XBm:4 o78G:3 16C5m:4*2 oSEG:3 15s/m:4 BWXW:6 DLKcG:5 WIJm:6 +JcG:5 hqbm:6 9GyYG:7 Dry0:8 6sMi0:7 awW0:8 1C8g0:5 k8Fm:6 1LOAG:5 avdm:6 18XWG:5 nmHm:6 15EaG:5 mRvm:6 1ETCG:5 fWxm:6 12wwG:5 olZm:6 15EaG:5 r3Dm:6*2 14aOG:5 pPlm:6 14aOG:5 n65m:6 16u2G:5 pPlm:6 da8G:3 VJw0:4 tNm0:9 10cO0:4*2 tNm0:9 15Di0:4 x+Bm:3 +JcG:4 x+Bm:3 x/yG:4*4 tNm0:3 10cO0:4 uj0G:3 w+vm:4 vLRm:3 +zoG:4 sPMG:3 10wbm:4 olZm:3 15EaG:4 r460:3 13F8y:4 j8yq:3 1CplC:4 eCYq:3 1FnaG:4 vhQ0:3 +Ik0:4 x+Bm:3 x/yG:4 15Cpm:3 p6QG:4 14uc0:3 p6QG:4 17WTm:3 mTgG:4*2 17WTm:3 oRM0:4 15Xvm:3 onKG:4 15Di0:3 omS0:4 17CG0:3 n6+0:4 17D8G:3 x/yG:4 x+Bm:3 viIG:4 +Hrm:3 tOeG:4 10bVm:3 onKG:4 15Cpm:3 onKG:4 17WTm:3 mTgG:4*2 17WTm:3 onKG:4 15Cpm:3*2 onKG:4 17WTm:3 mTgG:4*3 17WTm:3 onKG:4 12v9m:3 r4+G:4 10bVm:3 tOeG:4 x+Bm:3 x/yG:4 vgXm:3 +JcG:4 r3Dm:3 GAUG:4 2Inm:3 onKG:4 mRvm:3 DsqG:4 6w5m:3 onKG:4 k8Fm:3 DsqG:4 9Dlm:3 onKG:4 fWxm:3 GAUG:4 BXPm:3 onKG:4 dDHm:3 DsqG:4 ISNm:3 mTgG:4 avdm:3 DsqG:4 Km1m:3 mTgG:4 WIJm:3 GAUG:4 N3hm:3 onKG:4 Rg/m:3 DsqG:4 Rg/m:3 onKG:4 N3hm:3 GAUG:4 T+fm:3 onKG:4 Km1m:3 DsqG:4 avdm:3 mTgG:4 ISNm:3 DsqG:4 dDHm:3 mTgG:4 Dr3m:3 GAUG:4 fWxm:3 onKG:4 9Dlm:3 DsqG:4 k8Fm:3 onKG:4 4cRm:3 GAUG:4 mRvm:3 onKG:4 2Inm:3 GAUG:4 olZm:3 10dGG:4 vgXm:3 x/yG:4 x+Bm:3 tOeG:4 10bVm:3 r4+G:4 12v9m:3 onKG:4 15Cpm:3 onKG:4 17WTm:3 mTgG:4*3 17WTm:3 onKG:4 15Cpm:3*2 onKG:4 17WTm:3 mTgG:4*2 15Cpm:3 r4+G:4 10bVm:3 tOeG:4 +Hrm:3 viIG:4 vgXm:3 +JcG:4 tMtm:3 DsqG:4 2Inm:3 mTgG:4 r3Dm:3 DsqG:4 4cRm:3 mTgG:4 mRvm:3 GAUG:4 6w5m:3 onKG:4 hqbm:3 DsqG:4 BXPm:3 onKG:4 dDHm:3 GAUG:4 Dr3m:3 onKG:4 avdm:3 GAUG:4 ISNm:3 mTgG:4 Ybzm:3 DsqG:4 N3hm:3 mTgG:4 T+fm:3 GAUG:4 PNLm:3 onKG:4 PNLm:3 DsqG:4 T+fm:3 onKG:4 N3hm:3 DsqG:4 WIJm:3 onKG:4 ISNm:3 GAUG:4 Ybzm:3 onKG:4 G8jm:3 DsqG:4 fWxm:3 mTgG:4 BXPm:3 GAUG:4 hqbm:3 mTgG:4 9Dlm:3 GAUG:4 k8Fm:3 onKG:4 4cRm:3 DsqG:4 olZm:3|EET-2EEST,M3.4.4/50,M10.4.4/50",
  "23d,0 2em,1 1mW,0 1mW,0 2em,1 2em,1 1mW,0 2em,1 1mW,0 1mW,0|-22GhNd:3 1Ad8Jd:1 eDS0:2 FVQ0:1 3hKy0:2 nnA0:1 16Y40:2 o6G0:1 16Y40:2 sja0:1 11bg0:2*2 JobXW:4 lSdm:3 15umG:4 oQTm:3 15veW:4 o78G:3 16XBm:4 o78G:3 16C5m:4*3 o78G:3 16XBm:4 o78G:3 16C5m:4*2 oSEG:3 15s/m:4 BWXW:6 DLKcG:5 WIJm:6 +JcG:5 hqbm:6 9GyYG:7 Dry0:8 6sMi0:7 awW0:8 1C8g0:5 k8Fm:6 1LOAG:5 avdm:6 18XWG:5 nmHm:6 15EaG:5 mRvm:6 1ETCG:5 fWxm:6 12wwG:5 olZm:6 15EaG:5 r3Dm:6*2 14aOG:5 pPlm:6 14aOG:5 n65m:6 16u2G:5 pPlm:6 da8G:3 VJw0:4 tNm0:9 10cO0:4*2 tNm0:9 15Di0:4 x+Bm:3 +JcG:4 x+Bm:3 x/yG:4*4 tNm0:3 10cO0:4 uj0G:3 w+vm:4 vLRm:3 +zoG:4 sPMG:3 10wbm:4 pkrm:3 14FIG:4 r460:3 12w20:4 jU3m:3 1CplC:4 eCYq:3 9acG:4 AD1m:3 x/yG:4 vhQ0:3 +Ik0:4 x+Bm:3 x/yG:4 15Cpm:3 p6QG:4 14uc0:3 p6QG:4 17WTm:3 mTgG:4*2 17WTm:3 oRM0:4 15Xvm:3 onKG:4 15Di0:3 omS0:4 17CG0:3 n6+0:4 17D8G:3 x/yG:4 x+Bm:3 viIG:4 +Hrm:3 tOeG:4 10bVm:3 onKG:4 15Cpm:3 onKG:4 17WTm:3 mTgG:4*2 17WTm:3 onKG:4 15Cpm:3*2 onKG:4 17WTm:3 mTgG:4*3 17WTm:3 onKG:4 12v9m:3 r4+G:4 10bVm:3 tOeG:4 x+Bm:3 x/yG:4 vgXm:3 +JcG:4 r3Dm:3 GAUG:4 2Inm:3 onKG:4 mRvm:3 DsqG:4 6w5m:3 onKG:4 k8Fm:3 DsqG:4 9Dlm:3 onKG:4 fWxm:3 GAUG:4 BXPm:3 onKG:4 dDHm:3 DsqG:4 ISNm:3 mTgG:4 avdm:3 DsqG:4 Km1m:3 mTgG:4 WIJm:3 GAUG:4 N3hm:3 onKG:4 Rg/m:3 DsqG:4 Rg/m:3 onKG:4 N3hm:3 GAUG:4 T+fm:3 onKG:4 Km1m:3 DsqG:4 avdm:3 mTgG:4 ISNm:3 DsqG:4 dDHm:3 mTgG:4 Dr3m:3 GAUG:4 fWxm:3 onKG:4 9Dlm:3 DsqG:4 k8Fm:3 onKG:4 4cRm:3 GAUG:4 mRvm:3 onKG:4 2Inm:3 GAUG:4 olZm:3 10dGG:4 vgXm:3 x/yG:4 x+Bm:3 tOeG:4 10bVm:3 r4+G:4 12v9m:3 onKG:4 15Cpm:3 onKG:4 17WTm:3 mTgG:4*3 17WTm:3 onKG:4 15Cpm:3*2 onKG:4 17WTm:3 mTgG:4*2 15Cpm:3 r4+G:4 10bVm:3 tOeG:4 +Hrm:3 viIG:4 vgXm:3 +JcG:4 tMtm:3 DsqG:4 2Inm:3 mTgG:4 r3Dm:3 DsqG:4 4cRm:3 mTgG:4 mRvm:3 GAUG:4 6w5m:3 onKG:4 hqbm:3 DsqG:4 BXPm:3 onKG:4 dDHm:3 GAUG:4 Dr3m:3 onKG:4 avdm:3 GAUG:4 ISNm:3 mTgG:4 Ybzm:3 DsqG:4 N3hm:3 mTgG:4 T+fm:3 GAUG:4 PNLm:3 onKG:4 PNLm:3 DsqG:4 T+fm:3 onKG:4 N3hm:3 DsqG:4 WIJm:3 onKG:4 ISNm:3 GAUG:4 Ybzm:3 onKG:4 G8jm:3 DsqG:4 fWxm:3 mTgG:4 BXPm:3 GAUG:4 hqbm:3 mTgG:4 9Dlm:3 GAUG:4 k8Fm:3 onKG:4 4cRm:3 DsqG:4 olZm:3|EET-2EEST,M3.4.4/50,M10.4.4/50",
  "6Fs,0 6Fs,0 69m,0 720,0 7wG,0 69m,0|-1tSxns:1 95kU0:2 xahjs:3 48+Vm:4 uN20:2 2ztmW:3 FX3U0:2 8UALm:3 T3Yy0:2 1rmZZ/:2|<+07>-7",
  "6iA,0 720,0 7wG,1 7U8,1 7wG,0 720,0 7wG,1 720,0|-1wbfnm:1 14uysW:2 Zc80:3 Rzv8:4 7LMqO:7 olZm:2 19u4u:5 hrU0:6 1C8g0:5 omS0:6 x/40:5 omS0:2 15Di0:5*3 r460:2 15Di0:5 omS0:2 15Cpm:7 kA0G:2 19q7m:7 kA0G:2 1C7nm:7 hsMG:2 1C7nm:7 kA0G:2 19q7m:7*3 kA0G:2 1C7nm:7 hsMG:2*2 1C7nm:7 kA0G:2 19q7m:7*2 tOeG:2 x+Bm:7 x/yG:2*2 +Hrm:7 x/yG:2 x+Bm:7*4 x/yG:2 +Hrm:7 x/yG:2 x+Bm:7 N5SG:2 1Wuhm:7 x/yG:2 x+Bm:7*2 4rAqG:2 r3Dm:7|HKT-8",
  "5Ni,0 5HW,0 720,1 69m,0|-1vB0Di:1 28D+uC:3 9tUlm:2 yJHm:3 yL2G:2 x+Bm:3 x/yG:2*6 +Hrm:3 x/yG:2 x+Bm:3*5 +JcG:2 x+Bm:3 x/yG:2*2 x+Bm:3 4tB8m:2 olZm:3 x/yG:2 x+Bm:3*4 x/yG:2 +Hrm:3 F+4cG:2 xyRG:3 y1im:2 xyRG:3 e6gv/:3|<+07>-7",
  "671,0 671,0 69m,0 7wG,1 720,0 720,0 7wG,1 720,1 69m,0 7wG,0 7wG,1 720,0|-2fINt1:1 1BMus0:2 JaSDH:4 1VWuvm:3 yJHm:4 x/yG:3*2 yJHm:4 yL2G:3 y0qW:5 x/40:6 x/40:5*5 x/40:6 +Ik0:5 x/40:7 x/yG:8 awW0:5 N3hm:6 x/40:5 x/40:6*3 x/40:5 +Ik0:6 15Di0:5 omS0:6*3 17XM0:5 mSo0:6*2 17XM0:5 omS0:6 15Di0:5*2 omS0:6 17XM0:5 mSo0:6*3 17XM0:5 omS0:6 15Di0:5*2 omS0:6 17XM0:5 mSo0:9 6lQrm:5 hj2Zl:5|<+08>-8",
  "1ie,0 1je,0 2em,1 1mW,0 2em,0 3X0,1 2em,1 1mW,0 2em,1 1mW,0 2em,0|-2fIJSe:1 vrIp0:3 AW278:2 oQTm:3 6ZwKG:2 15Xvm:3 qluG:2 yJHm:3 vNCG:2 10bVm:3 30AYG:2 kTLm:3 15umG:2 oQTm:3 RlWwG:2 VzDm:3 IU8G:2 1Wuhm:3 /IuG:2 6drhm:3 1Dp0G:2 eCZm:3 12GkG:2 tMtm:3 10dGG:2 tMtm:3 +JcG:2 vgXm:3 10dGG:2*2 tMtm:3 KGdiG:2 2RZNm:3 11HSG:2 jp9m:3 GJrgW:2 omS0:3 mTgG:2 17WTm:3 jqwG:2 1A9Dm:3 kA0G:2 19q7m:3 onKG:2 10bVm:3 tOeG:2 SzdG:4 9aPyW:5 Km1m:4 22Y0G:3 u1y0:6 r460:7 yKA0:6 x/40:7 x/40:6*4 +Ik0:7 x/40:6 x/40:7*3 vhQ0:6 +Ik0:7 x/40:6 x/40:7 +Ik0:6 15Di0:7 omS0:6*3 17XM0:7 mSo0:6*2 17XM0:7 omS0:6 15Di0:7*2 omS0:6 17XM0:7 mSo0:6*2 17XM0:7 mUYW:8 17XM0:9 omS0:8 15Di0:9*2 omS0:8 17XM0:9 mnu0:8 17CG0:9 mSo0:8 17XM0:9 omS0:8 15Di0:9 p5Y0:8 14uc0:9 omS0:8 19r00:9 k980:8 r/t0:4 eCD6l:4|<+03>-3",
  "6GW,0 6GW,0 6SW,0 6bu,0 7wG,0 720,0 69m,0|-30cRQW:1 1g4Zo0:2 GdbY0:3 HgAKe:4 6bshe:3 4vTUO:5 3mb/u:3 PjfY8:6|WIB-7",
  "8Fe,0 7wG,0 8MO,0 7wG,0|-15wJve:1 MGVXO:2 aNEXu:3|WIT-9"]

end Autoresponder.Time.Table
