/-!
# Zone histories, part 5

Histories 345 to 378 of the zone table, each as text: the local time types (offset in
seconds east of UTC and a daylight-saving flag), the transitions (a UTC second, as a
difference from the one before after the first, and the type that starts there) and the
rule for times after the last transition. Offsets and seconds are written in base 64, with
the digits `0`-`9`, `A`-`Z`, `a`-`z`, `+` and `/`. A pair of transitions that comes several
times in a row is written once, its second item followed by `*` and the number of times.
-/

namespace Autoresponder.Time.Table

/-- Zone histories 345 to 378. -/
def part5 : List String := [
  "-1B,0 uG,1 0,0 1mW,1 0,0 uG,0 uG,1 0,0|-3belOr:4 20oQFL:1 hrU0:2 +Ik0:1 rPC0:2 zze0:1 +dq0:2 xf+0:1 yKA0:2 xf+0:1 15Yo0:2 ql00:1 yKA0:2 vMK0:1 10cO0:2 10cO0:1 mSo0:2 15Di0:1 r460:2 15Di0:1 tNm0:2 10cO0:1 tNm0:2 +Ik0:1 vhQ0:2 12w20:1 tNm0:2 10cO0:1 tNm0:2 +Ik0:1 vhQ0:2 10cO0:1 tNm0:2*2 +Ik0:1 x/40:2 10cO0:1 tNm0:2 +Ik0:1 vhQ0:2 10cO0:1 tNm0:2*2 +Ik0:1 vhQ0:2 10cO0:1 17XM0:2 WJC0:1 2F1pm:3 WJC0:1 1ESK0:3 fXq0:1 1ESK0:3 hrU0:1 1C8g0:3 tNm0:1 10xU0:3 YHm0:1 RimG:2 +Ik0:1 vhQ0:2 r460:1 9Dlm:3 dEA0:1 RimG:2 hrU0:1 1C8g0:2 omS0:1 15Di0:2 tNm0:1 +Ik0:2 vhQ0:1 +Ik0:2 x/40:1 +Ik0:2 vhQ0:1 tNm0:2 +Ik0:1 vhQ0:2 10cO0:1 tNm0:2 12w20:1 tNm0:2 +Ik0:1 vhQ0:2 10cO0:1 tNm0:2*2 +Ik0:1 vhQ0:2 vhQ0:1 17XM0:2 mSo0:1 17XM0:2 omS0:1 15Di0:2 mSo0:1 17XM0:2*3 mSo0:1 19r00:2 awW0:1 1J0/G:5 5gGgm:7 k980:1 19r00:2*4 mSo0:1 17XM0:2*2 mSo0:1 19r00:2 k980:1*2 19r00:2 olZm:6 15Di0:7 omS0:6*3 17XM0:7 omS0:6 15Di0:7*4 omS0:6 17XM0:7 mSo0:6 17XM0:7 omS0:6 15Di0:7*5 r460:6 15Di0:7 omS0:6*3 17XM0:7 mSo0:6*2 17XM0:7 omS0:6 15Di0:7*2 omS0:6 17XM0:7 mSo0:6*3 17XM0:7 omS0:6 15Di0:7*2 omS0:6 17XM0:7 mSo0:6*2 17XM0:7 omS0:6 15Di0:7*3 omS0:6 17XM0:7 mSo0:6*2 17XM0:7 omS0:6 15Di0:7*2 omS0:6 17XM0:7 mSo0:6*2 17XM0:7 omS0:6 15Di0:7*3 omS0:6 17XM0:7 mSo0:6*2 17XM0:7 omS0:6 15Di0:7*2 omS0:6 17XM0:7 mSo0:6*3 17XM0:7 omS0:6 15Di0:7*2|GMT0BST,M3.5.0/1,M10.5.0",
  "1Cu,0 uG,0 uG,0 1mW,1 1mW,1 1mW,1 uG,0|-2Xmm+u:1 1hnKMO:4 2vHKm:2 mSo0:3 +Ik0:2 x/40:3 x/40:2 17sS0:3 hBI0:2 16bMy0:5 x/40:6 x/40:5 +Ik0:6 x/40:5 x/40:6*5 x/40:5 +Ik0:6 x/40:5 x/40:6*5 +Ik0:5 15Di0:6 omS0:5*3 17XM0:6 mSo0:5*2 17XM0:6 omS0:5 15Di0:6*2 omS0:5 17XM0:6 mSo0:5*3 17XM0:6 omS0:5 15Di0:6*2 omS0:5 17XM0:6 mSo0:5*2 17XM0:6 omS0:5 15Di0:6*3 omS0:5 17XM0:6 mSo0:5*2 17XM0:6 omS0:5 15Di0:6*2 omS0:5 17XM0:6 mSo0:5*2 17XM0:6 omS0:5 15Di0:6*3 omS0:5 17XM0:6 mSo0:5*2 17XM0:6 omS0:5 15Di0:6*2 omS0:5 17XM0:6 mSo0:5*3 17XM0:6 omS0:5 15Di0:6*2|CET-1CEST,M3.5.0,M10.5.0/3",
  "o8,0 1mW,1 uG,0 1mW,1 uG,0 2em,1 2em,1 1mW,1 uG,0|-2GNPu8:2 hQRLe:1 oSEG:2 10zEW:3 omS0:4 15Di0:3 omS0:4 eXDe0:3 4tTc0:4 mSo0:3 +Ik0:4 x/40:3 x/40:4 x/40:3 H7/m:5 eYY0:1 I92G:4 mSo0:3 w0W0:4 xgsG:3 BXPm:6 G8jm:1 WK4G:4 10cO0:3 tNm0:4 +Ik0:3 vhQ0:4 vOym0:7 vhQ0:8 x/40:7 x/40:8*3 x/40:7 +Ik0:8 x/40:7 x/40:8*5 x/40:7 +Ik0:8 x/40:7 x/40:8*5 +Ik0:7 15Di0:8 omS0:7*3 17XM0:8 mSo0:7*2 17XM0:8 omS0:7 15Di0:8*2 omS0:7 17XM0:8 mSo0:7*3 17XM0:8 omS0:7 15Di0:8*2 omS0:7 17XM0:8 mSo0:7*2 17XM0:8 omS0:7 15Di0:8*3 omS0:7 17XM0:8 mSo0:7*2 17XM0:8 omS0:7 15Di0:8*2 omS0:7 17XM0:8 mSo0:7*2 17XM0:8 omS0:7 15Di0:8*3 omS0:7 17XM0:8 mSo0:7*2 17XM0:8 omS0:7 15Di0:8*2 omS0:7 17XM0:8 mSo0:7*3 17XM0:8 omS0:7 15Di0:8*2|CET-1CEST,M3.5.0,M10.5.0/3",
  "s8,0 s8,0 1mW,1 uG,0 1mW,1 uG,0 0,0 1mW,1 uG,0|-3Xjcq8:1 1EXbW0:3 kF2ne:2 oSEG:3 10zEW:4 omS0:5 15Di0:4 omS0:5 eXDe0:4 4tTc0:5 mSo0:4 +Ik0:5 x/40:4 x/40:5*2 17XM0:4 oRM0:5 IU8G:6 Rhu0:3 ISNm:4 tNm0:5 10cO0:4 tNm0:5 zze0:4 w0W0:5 tUg+0:7 x/40:8 +Ik0:7 vhQ0:8 x/40:7 x/40:8*3 x/40:7 +Ik0:8 x/40:7 x/40:8*5 x/40:7 +Ik0:8 x/40:7 x/40:8*5 +Ik0:7 15Di0:8 omS0:7*3 17XM0:8 mSo0:7*2 17XM0:8 omS0:7 15Di0:8*2 omS0:7 17XM0:8 mSo0:7*3 17XM0:8 omS0:7 15Di0:8*2 omS0:7 17XM0:8 mSo0:7*2 17XM0:8 omS0:7 15Di0:8*3 omS0:7 17XM0:8 mSo0:7*2 17XM0:8 omS0:7 15Di0:8*2 omS0:7 17XM0:8 mSo0:7*2 17XM0:8 omS0:7 15Di0:8*3 omS0:7 17XM0:8 mSo0:7*2 17XM0:8 omS0:7 15Di0:8*2 omS0:7 17XM0:8 mSo0:7*3 17XM0:8 omS0:7 15Di0:8*2|CET-1CEST,M3.5.0,M10.5.0/3",
  "GQ,0 GQ,0 0,0 uG,0 1mW,1 uG,0 1mW,1 uG,1 0,0 0,0 1mW,1 uG,0|-2fII0Q:1 NCUWQ:2 gMu60:3 2nzlm:6 oRM0:3 10zEW:4 omS0:5 15Di0:4 omS0:5 Ic2W:9 aQt0:7 17XM0:8 hrU0:7 1J3e0:8 kpK0:7 1AA60:8 nnA0:7 10cO0:8 10cO0:7 tNm0:8 vhQ0:7 +Ik0:8 x/40:7 x/40:8 10cO0:7 tNm0:8 +Ik0:7 vhQ0:8 10cO0:7 vk2m:8 10cO0:7 tNm0:8 +Ik0:7 vhQ0:8 10cO0:7 tNm0:8 x/40:7 x/40:8 vhQ0:7 10cO0:8 x/40:7 x/40:8 vhQ0:7 +Ik0:8 10cO0:7 tNm0:8 x/40:7 x/40:8 vhQ0:7 +Ik0:8 10cO0:7 17XM0:8 WJC0:7 S0+0:4 4dJ7m:5 mSo0:4 +Ik0:5 x/40:4 t2g0:5 10xU0:4 t2g0:5 1Gl+0:4 kUE0:5 vMK00:10 vhQ0:11 +Ik0:10 x/40:11 x/40:10 x/40:11 +Ik0:10 vhQ0:11 x/40:10 x/40:11*3 x/40:10 +Ik0:11 x/40:10 x/40:11*5 x/40:10 +Ik0:11 x/40:10 x/40:11*5 +Ik0:10 15Di0:11 omS0:10*3 17XM0:11 mSo0:10*2 17XM0:11 omS0:10 15Di0:11*2 omS0:10 17XM0:11 mSo0:10*3 17XM0:11 omS0:10 15Di0:11*2 omS0:10 17XM0:11 mSo0:10*2 17XM0:11 omS0:10 15Di0:11*3 omS0:10 17XM0:11 mSo0:10*2 17XM0:11 omS0:10 15Di0:11*2 omS0:10 17XM0:11 mSo0:10*2 17XM0:11 omS0:10 15Di0:11*3 omS0:10 17XM0:11 mSo0:10*2 17XM0:11 omS0:10 15Di0:11*2 omS0:10 17XM0:11 mSo0:10*3 17XM0:11 omS0:10 15Di0:11*2|CET-1CEST,M3.5.0,M10.5.0/3",
  "1Xu,0 1Xu,0 2em,1 1mW,0 2em,1 1mW,0 2em,1 1mW,0|-2JC1/u:1 1AuF80:5 1ZY5O:2 iAa0:3 x/40:2 x/40:3 +Ik0:2 x/40:3 x/40:2*5 x/40:3 1AbSo0:4 fWxm:5 +Ik0:4 viIG:5 y0qW:2 x/40:3 x/40:2*3 +Ik0:3 x/40:2 x/40:3*5 x/40:2 +Ik0:3 xzJW:2 x/40:3 x/40:2*2 x/40:3 x/40:4 x+Bm:5 x/yG:4 x+Bm:5 +JcG:4 15Cpm:5 opz0:6 15Di0:7 omS0:6*2 17XM0:7 mSo0:6*2 17XM0:7 omS0:6 15Di0:7*2 omS0:6 17XM0:7 mSo0:6*3 17XM0:7 omS0:6 15Di0:7*2 omS0:6 17XM0:7 mSo0:6*2 17XM0:7 omS0:6 15Di0:7*3 omS0:6 17XM0:7 mSo0:6*2 17XM0:7 omS0:6 15Di0:7*2 omS0:6 17XM0:7 mSo0:6*2 17XM0:7 omS0:6 15Di0:7*3 omS0:6 17XM0:7 mSo0:6*2 17XM0:7 omS0:6 15Di0:7*2 omS0:6 17XM0:7 mSo0:6*3 17XM0:7 omS0:6 15Di0:7*2|EET-2EEST,M3.5.0/3,M10.5.0/4",
  "17a,0 1mW,1 uG,0 1mW,1 uG,0 1mW,1 uG,0|-2Kw6va:2 lz8N4:1 oSEG:2 10zEW:3 omS0:4 15Di0:1 omS0:2 15Yo0:1 oRM0:2 12w20:1 tNm0:2 cfXzG:1 2yvMm:4 mSo0:3 +Ik0:4 x/40:3 x/40:4 15rFG:1 yL2G:2 nTqW:3 +cxm:2 xgsG:3 x/40:4 x/40:3 x/40:4 +Ik0:3 vhQ0:4 8kJ3W:1 hqbm:2 1CBIm:1 hrU0:2 1Gl+0:1 dEA0:2*2 gMsLW:1 vhQ0:2 x/40:1 x/40:2*3 y0qW:5 +Ik0:6 x/40:5 x/40:6*5 x/40:5 +Ik0:6 x/40:5 x/40:6*5 +Ik0:5 15Di0:6 omS0:5*3 17XM0:6 mSo0:5*2 17XM0:6 omS0:5 15Di0:6*2 omS0:5 17XM0:6 mSo0:5*3 17XM0:6 omS0:5 15Di0:6*2 omS0:5 17XM0:6 mSo0:5*2 17XM0:6 omS0:5 15Di0:6*3 omS0:5 17XM0:6 mSo0:5*2 17XM0:6 omS0:5 15Di0:6*2 omS0:5 17XM0:6 mSo0:5*2 17XM0:6 omS0:5 15Di0:6*3 omS0:5 17XM0:6 mSo0:5*2 17XM0:6 omS0:5 15Di0:6*2 omS0:5 17XM0:6 mSo0:5*3 17XM0:6 omS0:5 15Di0:6*2|CET-1CEST,M3.5.0,M10.5.0/3",
  "W0,0 Rw,0 1mW,1 uG,0 1mW,1 uG,0|-3R3nM0:1 1Cunm6:3 1OGsDw:2 omS0:3 15Di0:2 omS0:3 18OPYG:4 x/40:5 x/40:4*3 +Ik0:5 x/40:4 x/40:5*5 x/40:4 +Ik0:5 x/40:4 x/40:5*5 +Ik0:4 15Di0:5 omS0:4*3 17XM0:5 mSo0:4*2 17XM0:5 omS0:4 15Di0:5*2 omS0:4 17XM0:5 mSo0:4*3 17XM0:5 omS0:4 15Di0:5*2 omS0:4 17XM0:5 mSo0:4*2 17XM0:5 omS0:4 15Di0:5*3 omS0:4 17XM0:5 mSo0:4*2 17XM0:5 omS0:4 15Di0:5*2 omS0:4 17XM0:5 mSo0:4*2 17XM0:5 omS0:4 15Di0:5*3 omS0:4 17XM0:5 mSo0:4*2 17XM0:5 omS0:4 15Di0:5*2 omS0:4 17XM0:5 mSo0:4*3 17XM0:5 omS0:4 15Di0:5*2|CET-1CEST,M3.5.0,M10.5.0/3",
  "1i8,0 1hq,0 1Xu,0 2em,1 1mW,0 1mW,0 2em,1 uG,0 1mW,1 1mW,1 3X0,1 2em,0 2em,0 3X0,1 2em,1 1mW,0|-2fIJS8:1 17jDOK:2 PHJBy:5 1ZY5O:3 iAa0:4 x/40:3 x/40:4 +Ik0:3 x/40:4 x/40:3*5 x/40:4 1f8w0:6 1kkdm:9 2Ryt0:7 mSo0:8 +Ik0:7 x/40:8 l5nG:11 14sHTm:10 yJHm:11 x/yG:10*2 yJHm:11 yL2G:10 y0qW:12 x/40:13 x/40:12*5 x/40:13 Dr3m:6 mUYW:4 x/40:3 x/40:4 xzJW:6 x+Bm:5 x/yG:6*3 x+Bm:5 +JcG:6 15Cpm:5 op4m:6 15Di0:5 omS0:6*2 17XM0:5 mSo0:6*2 17XM0:5 omS0:6 15Di0:5*2 omS0:6 17XM0:5 mSo0:6*3 17XM0:5 omS0:6 15Di0:5*2 omS0:6 17XM0:5 mSo0:6*2 17XM0:5 omS0:6 15Di0:5*3 omS0:6 17XM0:5 mSo0:6*2 17XM0:5 omS0:6 15Di0:5*2 omS0:6 17XM0:5 mTgG:14 17XM0:15 mSo0:14 17XM0:15 omS0:14 15Di0:15*3 omS0:14 17XM0:15 mSo0:14*2 17XM0:15 omS0:14 15Di0:15*2 omS0:14 17XM0:15 mSo0:14*3 17XM0:15 omS0:14 15Di0:15*2|EET-2EEST,M3.5.0/3,M10.5.0/4",
  "lC,0 lC,0 1mW,1 uG,0 uG,0 1mW,1 1mW,1 uG,0|-2MUJ1C:1 7XX+0:3 g4Pqi:2 jp9m:3 iRPYW:2 4e/EW:4 mSo0:5 +Ik0:4 x/40:5 x/40:4 x/40:5 iVg0:4 1LNI0:5 eYY0:4 1Gl+0:5 WJC0:4 1P+c0:5 T/Y0:4 xZO80:6 vhQ0:7 x/40:6 x/40:7*3 x/40:6 +Ik0:7 x/40:6 x/40:7*5 x/40:6 +Ik0:7 x/40:6 x/40:7*5 +Ik0:6 15Di0:7 omS0:6*3 17XM0:7 mSo0:6*2 17XM0:7 omS0:6 15Di0:7*2 omS0:6 17XM0:7 mSo0:6*3 17XM0:7 omS0:6 15Di0:7*2 omS0:6 17XM0:7 mSo0:6*2 17XM0:7 omS0:6 15Di0:7*3 omS0:6 17XM0:7 mSo0:6*2 17XM0:7 omS0:6 15Di0:7*2 omS0:6 17XM0:7 mSo0:6*2 17XM0:7 omS0:6 15Di0:7*3 omS0:6 17XM0:7 mSo0:6*2 17XM0:7 omS0:6 15Di0:7*2 omS0:6 17XM0:7 mSo0:6*3 17XM0:7 omS0:6 15Di0:7*2|CET-1CEST,M3.5.0,M10.5.0/3",
  "-Nn,0 -Nn,0 WV,1 uG,1 0,0 uG,1 uG,0 uG,1 0,0|-2eBlKF:1 13LQYW:2 hrU0:4 +IMF:3 rPC0:4 zze0:3 +dq0:4 xf+0:3 yKA0:4 xf+0:3 15Yo0:4 ql00:3 yKA0:4 vMK0:5 10cO0:4 10cO0:5 mSo0:4 15Di0:5 r460:4 15Di0:5 tNm0:4 10cO0:5 tNm0:4 +Ik0:5 vhQ0:4 12w20:5 tNm0:4 10cO0:5 tNm0:4 +Ik0:5 vhQ0:4 10cO0:5 tNm0:4*2 +Ik0:5 x/40:4 10cO0:5 tNm0:4 +Ik0:5 vhQ0:4 10cO0:5 tNm0:4*2 +Ik0:5 vhQ0:4 10cO0:5 17XM0:4 WJC0:5 CRzQ0:4 r460:5 1C8g0:4 tNm0:5 10cO0:4 omS0:5 15Di0:4 tNm0:5 +Ik0:4 vhQ0:5 +Ik0:4 x/40:5 +Ik0:4 vhQ0:5 tNm0:4 +Ik0:5 vhQ0:4 10cO0:5 tNm0:4 12w20:5 tNm0:4 +Ik0:5 vhQ0:4 10cO0:5 tNm0:4*2 +Ik0:5 vhQ0:4 vhQ0:5 17XM0:4 mSo0:5 17XM0:4 omS0:5 15Di0:4 mSo0:5 17XM0:4*3 mSo0:5 19r00:4 awW0:5 1J0/G:6 5gGgm:8 k980:5 19r00:4*4 mSo0:5 17XM0:4*2 mSo0:5 19r00:4 k980:5*2 19r00:4 olZm:7 15Di0:8 omS0:7*3 17XM0:8 omS0:7 15Di0:8*4 omS0:7 17XM0:8 mSo0:7 17XM0:8 omS0:7 15Di0:8*5 r460:7 15Di0:8 omS0:7*3 17XM0:8 mSo0:7*2 17XM0:8 omS0:7 15Di0:8*2 omS0:7 17XM0:8 mSo0:7*3 17XM0:8 omS0:7 15Di0:8*2 omS0:7 17XM0:8 mSo0:7*2 17XM0:8 omS0:7 15Di0:8*3 omS0:7 17XM0:8 mSo0:7*2 17XM0:8 omS0:7 15Di0:8*2 omS0:7 17XM0:8 mSo0:7*2 17XM0:8 omS0:7 15Di0:8*3 omS0:7 17XM0:8 mSo0:7*2 17XM0:8 omS0:7 15Di0:8*2 omS0:7 17XM0:8 mSo0:7*3 17XM0:8 omS0:7 15Di0:8*2|GMT0IST,M3.5.0/1,M10.5.0",
  "-K4,0 uG,1 0,0 1mW,1 0,0 uG,0 1mW,1 uG,0|-2eBlNy:4 13LQES:1 hrU0:2 +Ik0:1 rPC0:2 zze0:1 +dq0:2 xf+0:1 yKA0:2 xf+0:1 15Yo0:2 ql00:1 yKA0:2 vMK0:1 10cO0:2 10cO0:1 mSo0:2 15Di0:1 r460:2 15Di0:1 tNm0:2 10cO0:1 tNm0:2 +Ik0:1 vhQ0:2 12w20:1 tNm0:2 10cO0:1 tNm0:2 +Ik0:1 vhQ0:2 10cO0:1 tNm0:2*2 +Ik0:1 x/40:2 10cO0:1 tNm0:2 +Ik0:1 vhQ0:2 10cO0:1 tNm0:2*2 +Ik0:1 vhQ0:2 10cO0:1 17XM0:2 WJC0:1 2F1pm:3 WJC0:1 1ESK0:3 fXq0:1 1ESK0:3 hrU0:1 1C8g0:3 tNm0:1 10xU0:3 YHm0:1 RimG:2 +Ik0:1 vhQ0:2 r460:1 9Dlm:3 dEA0:1 RimG:2 hrU0:1 1C8g0:2 omS0:1 15Di0:2 tNm0:1 +Ik0:2 vhQ0:1 +Ik0:2 x/40:1 +Ik0:2 vhQ0:1 tNm0:2 +Ik0:1 vhQ0:2 10cO0:1 tNm0:2 12w20:1 tNm0:2 +Ik0:5 kxtZm:6 x/40:7 x/40:6*2 +Ik0:7 x/40:6 x/40:7*5 x/40:6 +Ik0:7 x/40:6 x/40:7*5 +Ik0:6 15Di0:7 omS0:6*3 17XM0:7 mSo0:6*2 17XM0:7 omS0:6 15Di0:7*2 omS0:6 17XM0:7 mSo0:6*3 17XM0:7 omS0:6 15Di0:7*2 omS0:6 17XM0:7 mSo0:6*2 17XM0:7 omS0:6 15Di0:7*3 omS0:6 17XM0:7 mSo0:6*2 17XM0:7 omS0:6 15Di0:7*2 omS0:6 17XM0:7 mSo0:6*2 17XM0:7 omS0:6 15Di0:7*3 omS0:6 17XM0:7 mSo0:6*2 17XM0:7 omS0:6 15Di0:7*2 omS0:6 17XM0:7 mSo0:6*3 17XM0:7 omS0:6 15Di0:7*2|CET-1CEST,M3.5.0,M10.5.0/3",
  "-9X,0 uG,1 0,0 0,0 uG,0 1mW,1 1mW,1 1mW,1 1mW,1 uG,0 uG,1 0,0|-1gMMuV:3 5W1k/:1 hrU0:2 +Ik0:1 rPC0:2 zze0:1 +dq0:2 xf+0:1 yKA0:2 xf+0:1 15Yo0:2 ql00:1 yKA0:2 vMK0:1 10cO0:2 10cO0:1 mSo0:2 15Di0:1 r460:2 15Di0:1 tNm0:2 10cO0:1 tNm0:2 +Ik0:1 vhQ0:2 12w20:1 tNm0:2 10cO0:1 tNm0:2 +Ik0:1 vhQ0:2 10cO0:1 tNm0:2*2 +Ik0:1 x/40:2 10cO0:1 tNm0:2 +Ik0:1 vhQ0:2 10cO0:1 tNm0:2*2 +Ik0:1 vhQ0:2 10cO0:1 17XM0:2 WJC0:1 g9NG:6 4PAkW:4 mSo0:5 +Ik0:4 x/40:5 x/40:4 x/40:5 BqlG:8 MT0m:1 RimG:2 +Ik0:1 vhQ0:2 r460:1 9Dlm:7 dEA0:1 RimG:2 hrU0:1 1C8g0:2 omS0:1 15Di0:2 tNm0:1 +Ik0:2 vhQ0:1 +Ik0:2 x/40:1 +Ik0:2 vhQ0:1 tNm0:2 +Ik0:1 vhQ0:2 10cO0:1 tNm0:2 12w20:1 tNm0:2 +Ik0:1 vhQ0:2 10cO0:1 tNm0:2*2 +Ik0:1 vhQ0:2 vhQ0:1 17XM0:2 mSo0:1 17XM0:2 omS0:1 15Di0:2 mSo0:1 17XM0:2*3 mSo0:1 19r00:2 awW0:1 1J0/G:9 5gGgm:11 k980:1 19r00:2*4 mSo0:1 17XM0:2*2 mSo0:1 19r00:2 k980:1*2 19r00:2 olZm:10 15Di0:11 omS0:10*3 17XM0:11 omS0:10 15Di0:11*4 omS0:10 17XM0:11 mSo0:10 17XM0:11 omS0:10 15Di0:11*5 r460:10 15Di0:11 omS0:10*3 17XM0:11 mSo0:10*2 17XM0:11 omS0:10 15Di0:11*2 omS0:10 17XM0:11 mSo0:10*3 17XM0:11 omS0:10 15Di0:11*2 omS0:10 17XM0:11 mSo0:10*2 17XM0:11 omS0:10 15Di0:11*3 omS0:10 17XM0:11 mSo0:10*2 17XM0:11 omS0:10 15Di0:11*2 omS0:10 17XM0:11 mSo0:10*2 17XM0:11 omS0:10 15Di0:11*3 omS0:10 17XM0:11 mSo0:10*2 17XM0:11 omS0:10 15Di0:11*2 omS0:10 17XM0:11 mSo0:10*3 17XM0:11 omS0:10 15Di0:11*2|GMT0BST,M3.5.0/1,M10.5.0",
  "1Tb,0 1Tb,0 2em,1 1mW,0 2em,1 1mW,0|-2iHTbb:1 1GkKY0:3 dMk95:2 yfG0:3 18OlWW:2 x/40:3 x/40:2 x/40:3 x/yG:4 x/40:5 x/40:4 +Ik0:5 x/40:4 x/40:5*5 x/40:4 +Ik0:5 x/40:4 x/40:5*5 +Ik0:4 15Di0:5 omS0:4*3 17XM0:5 mSo0:4*2 17XM0:5 omS0:4 15Di0:5*2 omS0:4 17XM0:5 mSo0:4*3 17XM0:5 omS0:4 15Di0:5*2 omS0:4 17XM0:5 mSo0:4*2 17XM0:5 omS0:4 15Di0:5*3 omS0:4 17XM0:5 mSo0:4*2 17XM0:5 omS0:4 15Di0:5*2 omS0:4 17XM0:5 mSo0:4*2 17XM0:5 omS0:4 15Di0:5*3 omS0:4 17XM0:5 mSo0:4*2 17XM0:5 omS0:4 15Di0:5*2 omS0:4 17XM0:5 mSo0:4*3 17XM0:5 omS0:4 15Di0:5*2|EET-2EEST,M3.5.0/3,M10.5.0/4",
  "-Gp,0 uG,1 0,0 1mW,1 uG,0 uG,1 0,0|-2ZC2VD:2 +LjLj:1 hrU0:2 +Ik0:1 rPC0:2 zze0:1 +dq0:2 xf+0:1 yKA0:2 xf+0:1 15Yo0:2 ql00:1 yKA0:2 vMK0:1 10cO0:2 10cO0:1 mSo0:2 15Di0:1 r460:2 15Di0:1 tNm0:2 10cO0:1 tNm0:2 +Ik0:1 vhQ0:2 12w20:1 tNm0:2 10cO0:1 tNm0:2 +Ik0:1 vhQ0:2 10cO0:1 tNm0:2*2 +Ik0:1 x/40:2 10cO0:1 tNm0:2 +Ik0:1 vhQ0:2 10cO0:1 tNm0:2*2 +Ik0:1 vhQ0:2 10cO0:1 17XM0:2 WJC0:1 2F1pm:3 WJC0:1 1ESK0:3 fXq0:1 1ESK0:3 hrU0:1 1C8g0:3 tNm0:1 10xU0:3 YHm0:1 RimG:2 +Ik0:1 vhQ0:2 r460:1 9Dlm:3 dEA0:1 RimG:2 hrU0:1 1C8g0:2 omS0:1 15Di0:2 tNm0:1 +Ik0:2 vhQ0:1 +Ik0:2 x/40:1 +Ik0:2 vhQ0:1 tNm0:2 +Ik0:1 vhQ0:2 10cO0:1 tNm0:2 12w20:1 tNm0:2 +Ik0:1 vhQ0:2 10cO0:1 tNm0:2*2 +Ik0:1 vhQ0:2 vhQ0:1 17XM0:2 mSo0:1 17XM0:2 omS0:1 15Di0:2 mSo0:1 17XM0:2*3 mSo0:1 19r00:2 awW0:1 1J0/G:4 5gGgm:6 k980:1 19r00:2*4 mSo0:1 17XM0:2*2 mSo0:1 19r00:2 k980:1*2 19r00:2 olZm:5 15Di0:6 omS0:5*3 17XM0:6 omS0:5 15Di0:6*4 omS0:5 17XM0:6 mSo0:5 17XM0:6 omS0:5 15Di0:6*5 r460:5 15Di0:6 omS0:5*3 17XM0:6 mSo0:5*2 17XM0:6 omS0:5 15Di0:6*2 omS0:5 17XM0:6 mSo0:5*3 17XM0:6 omS0:5 15Di0:6*2 omS0:5 17XM0:6 mSo0:5*2 17XM0:6 omS0:5 15Di0:6*3 omS0:5 17XM0:6 mSo0:5*2 17XM0:6 omS0:5 15Di0:6*2 omS0:5 17XM0:6 mSo0:5*2 17XM0:6 omS0:5 15Di0:6*3 omS0:5 17XM0:6 mSo0:5*2 17XM0:6 omS0:5 15Di0:6*2 omS0:5 17XM0:6 mSo0:5*3 17XM0:6 omS0:5 15Di0:6*2|GMT0BST,M3.5.0/1,M10.5.0",
  "-7w,0 uG,1 0,0 0,0 uG,0 1mW,1 1mW,1 1mW,1 1mW,1 uG,0 uG,1 0,0|-26byC0:3 Xld2W:1 hrU0:2 +Ik0:1 rPC0:2 zze0:1 +dq0:2 xf+0:1 yKA0:2 xf+0:1 15Yo0:2 ql00:1 yKA0:2 vMK0:1 10cO0:2 10cO0:1 mSo0:2 15Di0:1 r460:2 15Di0:1 tNm0:2 10cO0:1 tNm0:2 +Ik0:1 vhQ0:2 12w20:1 tNm0:2 10cO0:1 tNm0:2 +Ik0:1 vhQ0:2 10cO0:1 tNm0:2*2 +Ik0:1 x/40:2 10cO0:1 tNm0:2 +Ik0:1 vhQ0:2 10cO0:1 tNm0:2*2 +Ik0:1 vhQ0:2 10cO0:1 17XM0:2 WJC0:1 g9NG:6 4PAkW:4 mSo0:5 +Ik0:4 x/40:5 x/40:4 x/40:5 BqlG:8 MT0m:1 RimG:2 +Ik0:1 vhQ0:2 r460:1 9Dlm:7 dEA0:1 RimG:2 hrU0:1 1C8g0:2 omS0:1 15Di0:2 tNm0:1 +Ik0:2 vhQ0:1 +Ik0:2 x/40:1 +Ik0:2 vhQ0:1 tNm0:2 +Ik0:1 vhQ0:2 10cO0:1 tNm0:2 12w20:1 tNm0:2 +Ik0:1 vhQ0:2 10cO0:1 tNm0:2*2 +Ik0:1 vhQ0:2 vhQ0:1 17XM0:2 mSo0:1 17XM0:2 omS0:1 15Di0:2 mSo0:1 17XM0:2*3 mSo0:1 19r00:2 awW0:1 1J0/G:9 5gGgm:3 k980:1 19r00:2*4 mSo0:1 17XM0:2*2 mSo0:1 19r00:2 k980:1*2 19r00:2 olZm:10 15Di0:3 omS0:10*3 17XM0:3 omS0:10 15Di0:3*4 omS0:10 17XM0:3 mSo0:10 17XM0:3 omS0:10 15Di0:3*5 r460:10 15Di0:3 omS0:10*3 17XM0:3 mSo0:10*2 17XM0:3 omS0:10 15Di0:3*2 omS0:10 17XM0:3 mSo0:10*3 17XM0:3 omS0:10 15Di0:3*2 omS0:10 17XM0:3 mSo0:10*2 17XM0:3 omS0:10 15Di0:3*3 omS0:10 17XM0:3 mSo0:10*2 17XM0:3 omS0:10 15Di0:3*2 omS0:10 17XM0:3 mSo0:10*2 17XM0:3 omS0:10 15Di0:3*3 omS0:10 17XM0:3 mSo0:10*2 17XM0:3 omS0:10 15Di0:3*2 omS0:10 17XM0:3 mSo0:10*3 17XM0:3 omS0:10 15Di0:3*2|GMT0BST,M3.5.0/1,M10.5.0",
  "1Cu,0 1mW,1 uG,0 1mW,1 uG,0 2em,1 1mW,0 3X0,1 2em,0 2em,0 3X0,1 2em,1 1mW,0 2em,0 1mW,0|-2GNQIu:2 hQRmO:1 oSEG:2 10zEW:3 omS0:4 15Di0:3 omS0:4 eXDe0:3 4tTc0:4 mSo0:3 +Ik0:4 x/40:3 x/40:4 x/40:3 2c7G:6 6Go0:5 zIZm:6 pmcG:8 11pV3m:7 yJHm:8 x/yG:7*2 yJHm:8 yL2G:7 y0qW:9 x/40:10 x/40:9*4 x/40:11 x/yG:12 x/40:11 +Ik0:12 x/40:11 x/40:12*5 +Ik0:11 15Di0:12 omS0:11*3 17XM0:12 mSo0:11*2 17XM0:12 omS0:11 15Di0:12*2 omS0:11 17XM0:12 mSo0:11*3 17XM0:12 omS0:11 15Di0:12*2 omS0:11 17XM0:12 mSo0:13 6lQrm:12|EET-2",
  "2wO,0 2em,0 4PG,1 3X0,0 3X0,0 4PG,1 3X0,1 2em,0 3X0,0 2em,0|-1U/yQ0:1 Kez7G:3 1VWuvm:2 yJHm:3 x/yG:2*2 yJHm:3 yL2G:2 y0qW:4 x/40:5 x/40:4*4 x/40:6 x/yG:7 x/40:6 +Ik0:7 x/40:4 1tzFm:6 x/yG:7 x/40:6 x/40:7*3 +Ik0:6 15Di0:7 omS0:6*3 17XM0:7 mSo0:6*2 17XM0:7 omS0:6 15Di0:7*2 omS0:6 17XM0:7 mSo0:6*3 17XM0:7 omS0:6 15Di0:7*2 omS0:6 17XM0:7 mSo0:8 6lQrm:7|MSK-3",
  "1oS,0 1oS,0 1mW,0 2em,0 uG,0 1mW,1 1mW,1 3X0,1 2em,0 3X0,1 2em,1 1mW,0 2em,1 1mW,0 2em,1|-2fIJYS:1 1JOk00:2 BYd7y:3 LAHLm:6 26Xn0:4 mSo0:5 +Ik0:4 AsLW:3 16MVzW:7 yJHm:3 x/yG:7*2 yJHm:3 yL2G:7 y0qW:8 x/40:9 x/40:8*5 x/40:9 WIJm:10 2L/QW:11 x/40:12 x/40:11*4 +Ik0:12 15EaG:13 omS0:14 15Di0:13*2 omS0:14 17XM0:13 mSo0:14*2 17XM0:13 omS0:14 15Di0:13*2 omS0:14 17XM0:13 mSo0:14*3 17XM0:13 omS0:14 15Di0:13*2 omS0:14 17XM0:13 mSo0:14*2 17XM0:13 omS0:14 15Di0:13*3 omS0:14 17XM0:13 mSo0:14*2 17XM0:13 omS0:14 15Di0:13*2 omS0:14 17XM0:13 mSo0:14*2 17XM0:13 omS0:14 15Di0:13*3 omS0:14 17XM0:13 mSo0:14*2 17XM0:13 omS0:14 15Di0:13*2 omS0:14 17XM0:13 mSo0:14*3 17XM0:13 omS0:14 15Di0:13*2|EET-2EEST,M3.5.0/3,M10.5.0/4",
  "-YT,0 uG,1 0,0 uG,1 0,0 1mW,1 0,0 uG,0 uG,1 uG,0 1mW,1 uG,1 0,0|-2XmlFZ:0 qgO9Z:6 8PDxm:1 ireG:2 dZG0:1 1B8Vm:2 jAkG:1*2 1B8Vm:2 jVqG:1 1B8Vm:2 jAkG:1 1B8Vm:2 4jao0:3 uN20:4 2uaW0:3 tNm0:4 +Ik0:3 vhQ0:4 10cO0:3*2 tNm0:4 2uaW0:3 tNm0:4 x/40:3 x/40:4 2sGs0:3 x/40:4 vhQ0:3 +Ik0:4 10cO0:3 tNm0:4 x/40:3 x/40:4 vhQ0:3 +Ik0:4 10cO0:3 17XM0:4 WJC0:3 1AVC0:4 xKu0:3 yKA0:4 ql00:3 Dr3m:5 awW0:3 N5SG:4 k980:3 BXPm:5 hrU0:3 KnoG:4 hrU0:3 Dr3m:5 fXq0:3 KnoG:4 hrU0:3 Dr3m:5 fXq0:3 KnoG:4 r460:3 x/40:4 y1im:3 x/40:4 x/40:3*4 +Ik0:4 x/40:3 x/40:4*4 x/40:3 +Ik0:4 x/40:3 x/40:4*5 x/40:3 +Ik0:4 x/40:3 x/40:4*3 x/40:3 x/40:7 In/9W:2 x/40:3 x/40:4 +JcG:3 x/40:4 x/40:3 x/40:4 +Ik0:3 vhQ0:4 x+Bm:3 x/40:4 x/40:3*3 +Ik0:4 x/40:3 x/40:4 x/yG:8 x/40:6 x/40:8*4 +Ik0:6 x/40:8 x/40:6 x/40:8 x/40:9 x/40:10*3 x/40:9 +Ik0:8 15Di0:6 omS0:8*3 17XM0:6 mSo0:8*2 17XM0:6 omS0:8 15Di0:6*2 omS0:8 17XM0:6 mSo0:8*3 17XM0:6 omS0:8 15Di0:6*2 omS0:8 17XM0:6 mSo0:8*2 17XM0:6 omS0:8 15Di0:6*3 omS0:8 17XM0:6 mSo0:8*2 17XM0:6 omS0:8 15Di0:6*2 omS0:8 17XM0:6 mSo0:8*2 17XM0:6 omS0:8 15Di0:6*3 omS0:8 17XM0:6 mSo0:8*2 17XM0:6 omS0:8 15Di0:6*2 omS0:8 17XM0:6 mSo0:8*3 17XM0:6 omS0:8 15Di0:6*2|WET0WEST,M3.5.0/1,M10.5.0",
  "sS,0 uG,0 uG,0 1mW,1 1mW,1 1mW,1 uG,0|-2XmmeS:1 1hnJ/y:4 2vHKm:2 mSo0:3 +Ik0:2 x/40:3 x/40:2 x/40:3 t2g0:2 16bMy0:5 x/40:6 x/40:5 +Ik0:6 x/40:5 x/40:6*5 x/40:5 +Ik0:6 x/40:5 x/40:6*5 +Ik0:5 15Di0:6 omS0:5*3 17XM0:6 mSo0:5*2 17XM0:6 omS0:5 15Di0:6*2 omS0:5 17XM0:6 mSo0:5*3 17XM0:6 omS0:5 15Di0:6*2 omS0:5 17XM0:6 mSo0:5*2 17XM0:6 omS0:5 15Di0:6*3 omS0:5 17XM0:6 mSo0:5*2 17XM0:6 omS0:5 15Di0:6*2 omS0:5 17XM0:6 mSo0:5*2 17XM0:6 omS0:5 15Di0:6*3 omS0:5 17XM0:6 mSo0:5*2 17XM0:6 omS0:5 15Di0:6*2 omS0:5 17XM0:6 mSo0:5*3 17XM0:6 omS0:5 15Di0:6*2|CET-1CEST,M3.5.0,M10.5.0/3",
  "N4,0 1mW,1 uG,0 1mW,1 uG,0 uG,1 0,0 0,0 uG,1 uG,0 1mW,1 1mW,1 1mW,1 uG,0|-1xNL94:2 MUzwa:1 jqwG:2 15Cpm:1 kV6G:2 15FSW:3 omS0:4 N2pW:6 V+60:5 17Z+m:6 horG:5 1J5OW:6 knZW:5 1ABsW:6 nlPW:5 10dGG:6 10bVm:5 tPWW:6 vffW:5 +JcG:6 yJHm:5 xgsG:6 10bVm:5 tOeG:6 +Hrm:5 viIG:6 10bVm:5*2 tQOm:7 +Ik0:8 vhQ0:7 10cO0:8 tNm0:7 x/40:8 x/40:7 vhQ0:8 10cO0:7 x/40:8 x/40:7 vhQ0:8 +Ik0:7 10cO0:8 tNm0:7 x/40:8 x/40:7 vhQ0:8 +Ik0:7 10cO0:8 17XM0:7 WJC0:8 Q2Q0:11 4fHhm:9 mSo0:10 +Ik0:9 x/40:10 tNm0:2 10cO0:3 t2g0:4 1Gl+0:3 kUE0:4 vMK00:12 vhQ0:13 +Ik0:12 x/40:13 x/40:12 x/40:13 +Ik0:12 vhQ0:13 x/40:12 x/40:13*3 x/40:12 +Ik0:13 x/40:12 x/40:13*5 x/40:12 +Ik0:13 x/40:12 x/40:13*5 +Ik0:12 15Di0:13 omS0:12*3 17XM0:13 mSo0:12*2 17XM0:13 omS0:12 15Di0:13*2 omS0:12 17XM0:13 mSo0:12*3 17XM0:13 omS0:12 15Di0:13*2 omS0:12 17XM0:13 mSo0:12*2 17XM0:13 omS0:12 15Di0:13*3 omS0:12 17XM0:13 mSo0:12*2 17XM0:13 omS0:12 15Di0:13*2 omS0:12 17XM0:13 mSo0:12*2 17XM0:13 omS0:12 15Di0:13*3 omS0:12 17XM0:13 mSo0:12*2 17XM0:13 omS0:12 15Di0:13*2 omS0:12 17XM0:13 mSo0:12*3 17XM0:13 omS0:12 15Di0:13*2|CET-1CEST,M3.5.0,M10.5.0/3",
  "-Dq,0 uG,1 0,0 1mW,1 0,0 1mW,1 uG,0 1mW,1 uG,0 1mW,1 uG,0|-21oKi0:4 WX13m:1 vNCG:2 x+Bm:1 yL2G:2 8X8Bm:1 uNwG:2 2uZdm:1 tOeG:2 +Hrm:1 viIG:2 10cO0:1 vhQ0:2 10bVm:1 tOeG:2 EUTfm:1 Zd0G:2 x+Bm:1 9Dlm:3 p5Y0:1 1v+SW:2 r3Dm:6 404zm:5 dvEG:6 1BTbm:5 tOeG:6 10bVm:5*3 tOeG:6 4tSjm:5 onKG:6 k977m:5 viIG:6 +Hrm:5 viIG:6 vgXm:5 x/yG:6 +Hrm:5 viIG:6 +KUW:7 x/40:8 x/40:9 x/40:10 +Ik0:9 vhQ0:10 x/40:9 x/40:10*3 x/40:9 +Ik0:10 x/40:9 x/40:10*5 x/40:9 +Ik0:10 x/40:9 x/40:10*5 +Ik0:9 15Di0:10 omS0:9*3 17XM0:10 mSo0:9*2 17XM0:10 omS0:9 15Di0:10*2 omS0:9 17XM0:10 mSo0:9*3 17XM0:10 omS0:9 15Di0:10*2 omS0:9 17XM0:10 mSo0:9*2 17XM0:10 omS0:9 15Di0:10*3 omS0:9 17XM0:10 mSo0:9*2 17XM0:10 omS0:9 15Di0:10*2 omS0:9 17XM0:10 mSo0:9*2 17XM0:10 omS0:9 15Di0:10*3 omS0:9 17XM0:10 mSo0:9*2 17XM0:10 omS0:9 15Di0:10*2 omS0:9 17XM0:10 mSo0:9*3 17XM0:10 omS0:9 15Di0:10*2|CET-1CEST,M3.5.0,M10.5.0/3",
  "sS,0 1mW,1 uG,0 uG,0 1mW,1 1mW,1 uG,0|-2FGYoS:2 gUoKC:1 dDHm:2 x/yG:1 yJHm:2 qluG:1 15Xvm:2 m8aG:1 17WTm:2 tOeG:1 x+Bm:2 b81kG:1 4UnKW:3 mSo0:4 +Ik0:3 xf+0:4 tNm0:3 10xU0:1 shpW:2 yLwW:4 12w20:3 r2LW:4 12w20:3 mUYW:4 17XM0:3 XAX/W:4 fWxm:2 1GmsG:4 dEA0:3 1Gl+0:4 dEA0:3 1J3e0:4 dEA0:3 1Gl+0:4 dEA0:3 1ESK0:4 fXq0:3 1Gl+0:4 fXq0:3 xf+0:4 x/40:3 13F80:4 mnu0:3 17E0W:1 olZm:2 15EaG:1*4 olZm:2 10yMG:1 vLRm:2 +JcG:5 x/40:6 x/40:5*3 +Ik0:6 x/40:5 x/40:6*5 x/40:5 +Ik0:6 x/40:5 x/40:6*5 +Ik0:5 15Di0:6 omS0:5*3 17XM0:6 mSo0:5*2 17XM0:6 omS0:5 15Di0:6*2 omS0:5 17XM0:6 mSo0:5*3 17XM0:6 omS0:5 15Di0:6*2 omS0:5 17XM0:6 mSo0:5*2 17XM0:6 omS0:5 15Di0:6*3 omS0:5 17XM0:6 mSo0:5*2 17XM0:6 omS0:5 15Di0:6*2 omS0:5 17XM0:6 mSo0:5*2 17XM0:6 omS0:5 15Di0:6*3 omS0:5 17XM0:6 mSo0:5*2 17XM0:6 omS0:5 15Di0:6*2 omS0:5 17XM0:6 mSo0:5*3 17XM0:6 omS0:5 15Di0:6*2|CET-1CEST,M3.5.0,M10.5.0/3",
  "1dO,0 1d8,0 1mW,0 2em,0 uG,0 1mW,1 1mW,1 3X0,1 2em,0 3X0,1 2em,1 1mW,0 2em,0|-2fIJNO:1 1JOk0G:2 BYcye:3 KkbTm:6 2YDf0:4 mSo0:5 +Ik0:4 x/40:5 TyvG:3 157QLm:7 yJHm:3 x/yG:7*2 yJHm:3 yL2G:7 y0qW:8 x/40:9 x/40:8*5 2sGs0:10 x/yG:11 x/40:10 x/40:11*4 +Ik0:10 15Di0:11 omS0:10*3 17XM0:11 mSo0:10*2 17XM0:11 omS0:10 15Di0:11*2 omS0:10 17XM0:11 mSo0:10*3 17XM0:11 omS0:10 15Di0:11*2 omS0:10 17XM0:11 mSo0:12 oSO7/:12|<+03>-3",
  "Ri,0 8n,0 uG,1 0,0 uG,1 1mW,1 0,0 1mW,1 uG,0 1mW,1 uG,0|-2Hxc1i:1 ZPckx:6 9pssX:2 ZxE0:3 vMK0:2 10xU0:3 oRM0:2 15Yo0:3 m7i0:2 17sS0:3 hWO0:2 1J3e0:3 kpK0:2 1AA60:3 nnA0:2 10cO0:3 1C8g0:2 hrU0:3 vhQ0:2 +Ik0:3 x/40:2 x/40:3 10cO0:2 tNm0:3 +Ik0:2 vhQ0:3 10cO0:2*2 tNm0:3 +Ik0:2 vhQ0:3 10cO0:2 tNm0:3 x/40:2 x/40:3 vhQ0:2 10cO0:3 x/40:2 x/40:3 vhQ0:2 +Ik0:3 10cO0:2 tNm0:3 x/40:2 x/40:3 vhQ0:2 +Ik0:3 10cO0:2 17XM0:3 WLqm:4 2FL9G:5 olZm:4 onKG:5 1EU4W:4 mSo0:5 +Ik0:4 x/40:5 zxtW:4 w2GW:5 t2g0:8 vRFXm:7 x+Bm:8 +KUW:9 vhQ0:10 +Ik0:9 x/40:10 x/40:9 x/40:10 +Ik0:9 vhQ0:10 x/40:9 x/40:10*3 x/40:9 +Ik0:10 x/40:9 x/40:10*5 x/40:9 +Ik0:10 x/40:9 x/40:10*5 +Ik0:9 15Di0:10 omS0:9*3 17XM0:10 mSo0:9*2 17XM0:10 omS0:9 15Di0:10*2 omS0:9 17XM0:10 mSo0:9*3 17XM0:10 omS0:9 15Di0:10*2 omS0:9 17XM0:10 mSo0:9*2 17XM0:10 omS0:9 15Di0:10*3 omS0:9 17XM0:10 mSo0:9*2 17XM0:10 omS0:9 15Di0:10*2 omS0:9 17XM0:10 mSo0:9*2 17XM0:10 omS0:9 15Di0:10*3 omS0:9 17XM0:10 mSo0:9*2 17XM0:10 omS0:9 15Di0:10*2 omS0:9 17XM0:10 mSo0:9*3 17XM0:10 omS0:9 15Di0:10*2|CET-1CEST,M3.5.0,M10.5.0/3",
  "2Cv,0 2Cv,0 367,1 2Dt,0 3+N,1 3X0,1 2em,0 3X0,1 4PG,1 1mW,0 2em,0 3X0,1 2em,1 1mW,0 3X0,0 3X0,1 2em,0|-2fIJyv:1 14g5u0:3 1tzEo:2 w/o0:3 p4fm:4 ZHwG:2 1L1Jm:4 9yoN:5 F6p0:6 2qyU0:7 BCJm:8 s3O0:7 9viG:6 1uK6G:9 EXTGG:6 1VWuvm:7 yJHm:6 x/yG:7*2 yJHm:6 yL2G:7 y0qW:10 x/40:11 x/40:10*5 x/40:11 +Ik0:10 x/40:12 x/yG:13 awW0:10 N3hm:11 x/40:10 x/40:11*3 x/40:10 +Ik0:11 15Di0:10 omS0:11*3 17XM0:10 mSo0:11*2 17XM0:10 omS0:11 15Di0:10*2 omS0:11 17XM0:10 mSo0:11*3 17XM0:10 omS0:11 15Di0:10*2 omS0:11 17XM0:10 mSo0:14 6lQrm:10|MSK-3",
  "8n,0 8n,0 uG,1 0,0 uG,1 0,0 uG,0 1mW,1 1mW,1 1mW,1 uG,0 1mW,1 uG,0|-2KDcGn:1 bbhI0:5 9voYX:2 ZxE0:3 vMK0:2 10xU0:3 oRM0:2 15Yo0:3 m7i0:2 17sS0:3 hWO0:2 1J3e0:3 kpK0:2 1AA60:3 nnA0:2 10cO0:3 1C8g0:2 hrU0:3 vhQ0:2 +Ik0:3 x/40:2 x/40:3 10cO0:2 tNm0:3 +Ik0:2 vhQ0:3 10cO0:2*2 tNm0:3 +Ik0:2 vhQ0:3 10cO0:2 tNm0:3 x/40:2 x/40:3 vhQ0:2 10cO0:3 x/40:2 x/40:3 vhQ0:2 +Ik0:3 10cO0:2 tNm0:3 x/40:2 x/40:3 vhQ0:2 +Ik0:3 10cO0:2 17XM0:3 WLqm:4 aXv0:8 4UoCm:6 mSo0:7 +Ik0:6 x/40:7 lQtG:9 EX0G:4 w2GW:9 t2g0:10 vRFXm:8 x+Bm:10 +KUW:11 vhQ0:12 +Ik0:11 x/40:12 x/40:11 x/40:12 +Ik0:11 vhQ0:12 x/40:11 x/40:12*3 x/40:11 +Ik0:12 x/40:11 x/40:12*5 x/40:11 +Ik0:12 x/40:11 x/40:12*5 +Ik0:11 15Di0:12 omS0:11*3 17XM0:12 mSo0:11*2 17XM0:12 omS0:11 15Di0:12*2 omS0:11 17XM0:12 mSo0:11*3 17XM0:12 omS0:11 15Di0:12*2 omS0:11 17XM0:12 mSo0:11*2 17XM0:12 omS0:11 15Di0:12*3 omS0:11 17XM0:12 mSo0:11*2 17XM0:12 omS0:11 15Di0:12*2 omS0:11 17XM0:12 mSo0:11*2 17XM0:12 omS0:11 15Di0:12*3 omS0:11 17XM0:12 mSo0:11*2 17XM0:12 omS0:11 15Di0:12*2 omS0:11 17XM0:12 mSo0:11*3 17XM0:12 omS0:11 15Di0:12*2|CET-1CEST,M3.5.0,M10.5.0/3",
  "1QY,0 1QY,0 2Io,1 1mW,0 2em,0 uG,0 1mW,1 1mW,1 3X0,1 2em,0 3X0,1 2em,1 1mW,0 2em,1 1mW,0|-2fIJAY:1 180hgW:2 omS0:1 10xU0:2 Gpo0:1 D76xW:3 QntA2:4 1im3m:7 2XEN0:5 mSo0:6 +Ik0:5 x/40:6 x/40:5 3cHW:4 14bnvW:8 yJHm:4 x/yG:8*2 yJHm:4 yL2G:8 y0qW:9 x/40:10 x/40:9*4 x/40:11 x/yG:12 x/40:11 +Ik0:12 x/40:11 x/40:12*5 +Ik0:11 x/40:12 x/yG:13 15Di0:14 omS0:13*2 17XM0:14 2eQw0:13 17XM0:14 omS0:13 15Di0:14*2 omS0:13 17XM0:14 mSo0:13*3 17XM0:14 omS0:13 15Di0:14*2 omS0:13 17XM0:14 mSo0:13*2 17XM0:14 omS0:13 15Di0:14*3 omS0:13 17XM0:14 mSo0:13*2 17XM0:14 omS0:13 15Di0:14*2 omS0:13 17XM0:14 mSo0:13*2 17XM0:14 omS0:13 15Di0:14*3 omS0:13 17XM0:14 mSo0:13*2 17XM0:14 omS0:13 15Di0:14*2 omS0:13 17XM0:14 mSo0:13*3 17XM0:14 omS0:13 15Di0:14*2|EET-2EEST,M3.5.0/3,M10.5.0/4",
  "kq,0 kq,0 1mW,1 uG,0 uG,0 1mW,1 uG,0 1mW,1|-31rnUq:1 oavaa:6 gV7S0:2 dDHm:3 x/yG:2 yJHm:3 qluG:2 15Xvm:3 m8aG:2 17WTm:3 tOeG:2 x+Bm:3 b81kG:2 4UnKW:4 mSo0:5 +Ik0:4 x/40:5 t2g0:4 10xU0:2 shpW:3 yLwW:5 12w20:4 r2LW:5 12w20:4 mUYW:5 17XM0:4 XAX/W:5 fWxm:3 1GmsG:5 dEA0:4 1Gl+0:5 dEA0:4 1J3e0:5 dEA0:4 1Gl+0:5 dEA0:4 1ESK0:5 fXq0:4 1Gl+0:5*2 dEA0:4 1ESK0:5 fXq0:4 1Gl+0:5 dEA0:4*2 1ESK0:5 fXq0:4 1Gl+0:5 fXq0:4 1ESK0:5 fXq0:4 +KUW:7 vhQ0:6 x/40:7 x/40:6*3 x/40:7 +Ik0:6 x/40:7 x/40:6*5 x/40:7 +Ik0:6 x/40:7 x/40:6*5 +Ik0:7 15Di0:6 omS0:7*3 17XM0:6 mSo0:7*2 17XM0:6 omS0:7 15Di0:6*2 omS0:7 17XM0:6 mSo0:7*3 17XM0:6 omS0:7 15Di0:6*2 omS0:7 17XM0:6 mSo0:7*2 17XM0:6 omS0:7 15Di0:6*3 omS0:7 17XM0:6 mSo0:7*2 17XM0:6 omS0:7 15Di0:6*2 omS0:7 17XM0:6 mSo0:7*2 17XM0:6 omS0:7 15Di0:6*3 omS0:7 17XM0:6 mSo0:7*2 17XM0:6 omS0:7 15Di0:6*2 omS0:7 17XM0:6 mSo0:7*3 17XM0:6 omS0:7 15Di0:6*2|CET-1CEST,M3.5.0,M10.5.0/3",
  "2xq,0 2em,0 3X0,0 4PG,1 3X0,0 4PG,1 3X0,1 2em,0 2em,1 3X0,1 3X0,0|-1U/yQ0:1 Kez7G:2 1VWuvm:3 yJHm:2 x/yG:3*2 yJHm:2 yL2G:3 y0qW:4 x/40:5 x/40:4*4 x/40:6 x/yG:7 x/40:6 +Ik0:7 x/40:8 x/yG:7 6w+0:2 r2LW:5 x/40:4 x/40:5*3 x/40:4 +Ik0:5 15Di0:4 omS0:5*3 17XM0:4 mSo0:5*2 17XM0:4 omS0:5 15Di0:4*2 omS0:5 17XM0:4 mSo0:5*3 17XM0:4 omS0:5 15Di0:4*2 omS0:6 17YEG:7 mSo0:4 oSP0F:4|<+04>-4",
  "154,0 uG,0 uG,0 1mW,1 1mW,1 1mW,1 uG,0|-2Xmmt4:1 1hnKEa:4 2vHKm:2 mSo0:3 +Ik0:2 x/40:3 x/40:2 x/40:3 t2g0:2 16bMy0:5 x/40:6 x/40:5 +Ik0:6 x/40:5 x/40:6*5 x/40:5 +Ik0:6 x/40:5 x/40:6*5 +Ik0:5 15Di0:6 omS0:5*3 17XM0:6 mSo0:5*2 17XM0:6 omS0:5 15Di0:6*2 omS0:5 17XM0:6 mSo0:5*3 17XM0:6 omS0:5 15Di0:6*2 omS0:5 17XM0:6 mSo0:5*2 17XM0:6 omS0:5 15Di0:6*3 omS0:5 17XM0:6 mSo0:5*2 17XM0:6 omS0:5 15Di0:6*2 omS0:5 17XM0:6 mSo0:5*2 17XM0:6 omS0:5 15Di0:6*3 omS0:5 17XM0:6 mSo0:5*2 17XM0:6 omS0:5 15Di0:6*2 omS0:5 17XM0:6 mSo0:5*3 17XM0:6 omS0:5 15Di0:6*2|CET-1CEST,M3.5.0,M10.5.0/3",
  "2io,0 2em,0 4PG,1 3X0,0 3X0,0 4PG,1 3X0,1 2em,0 3X0,0|-1U/yQ0:1 Kez7G:3 1VWuvm:2 yJHm:3 x/yG:2*2 yJHm:3 yL2G:2 y0qW:4 x/40:5 x/40:4*3 x/40:6 x/yG:7 x/40:6 x/40:7 x/40:6 +Ik0:7 x/40:4 1tzFm:6 x/yG:7 x/40:6 x/40:7*3 +Ik0:6 15Di0:7 omS0:6*3 17XM0:7 mSo0:6*2 17XM0:7 omS0:6 15Di0:7*2 omS0:6 17XM0:7 mSo0:6*3 17XM0:7 omS0:6 15Di0:7*2 omS0:6 17XM0:7 mSo0:4 6lQrm:7 3zp4G:4 dlB6F:4|<+04>-4",
  "1/u,0 1/W,0 1mW,0 2em,0 uG,0 1mW,1 1mW,1 3X0,1 2em,0 3X0,1 2em,1 1mW,0 2em,1 1mW,0 3X0,0 2em,0|-2fIJlu:1 1JOk0O:2 BYdL0:3 LO7Hm:6 1uhr0:4 mSo0:5 +Ik0:4 x/40:5 3GJG:3 15Y6xm:7 yJHm:3 x/yG:7*2 yJHm:3 yL2G:7 y0qW:8 x/40:9 x/40:8*5 1SIG0:2 3HzcG:10 x/40:11 x/40:10*2 BVfG:7 mUYW:8 x/40:9 x/40:8 +GzW:9 15GKm:8 onKG:12 15Di0:13 omS0:12*2 17XM0:13 mSo0:12*2 17XM0:13 omS0:12 15Di0:13*2 omS0:12 17XM0:13 mSo0:12*3 17XM0:13 omS0:12 15Di0:13*2 omS0:12 17XM0:13 mSo0:12*2 17XM0:13 omS0:12 15Di0:13 olZm:14 15BxW:8|MSK-3"]

end Autoresponder.Time.Table
