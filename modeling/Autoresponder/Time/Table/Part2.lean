/-!
# Zone histories, part 2

Histories 108 to 161 of the zone table, each as text: the local time types (offset in
seconds east of UTC and a daylight-saving flag), the transitions (a UTC second, as a
difference from the one before after the first, and the type that starts there) and the
rule for times after the last transition. Offsets and seconds are written in base 64, with
the digits `0`-`9`, `A`-`Z`, `a`-`z`, `+` and `/`. A pair of transitions that comes several
times in a row is written once, its second item followed by `*` and the number of times.
-/

namespace Autoresponder.Time.Table

/-- Zone histories 108 to 161. -/
def part2 : List String := [
  "-3Ya,0 -35i,0 -2DS,1 -34u,0 -2Ce,1 -2Ce,1 -2Ce,1 -2em,1 -3X0,0 -1mW,1 -2em,1|-2XmiFS:1 10Uq9e:2 10bVm:1 UutRm:3 26UFC:4 mRvm:3 17YEG:4*2 mRvm:3 19ruG:4 k8Fm:3 19ruG:4 mRvm:3 17YEG:4 mRvm:3 17YEG:6 68pou:5 FF9O:3 19ruG:4 mRvm:3 17YEG:4*3 mRvm:3 19ruG:4 mRvm:3 12wwG:4 olZm:3 15EaG:4*4 olZm:3 17YEG:4 olZm:3 15EaG:4*4 +Hrm:3 x/yG:4 x+Bm:3*4 x/yG:4 +Hrm:3 iWYG:8 DCC8:7 +Hrm:8 x/yG:7 x+Bm:8*4 x/yG:7 +Hrm:8 x/yG:7 x+Bm:8*4 x/yG:7 +Hrm:8 viIG:7 +Hrm:8 x/yG:7 x+Bm:8*4 x/yG:7 +Hrm:8 viIG:7 +Hrm:8 x/yG:7 x+Bm:8*3 r3Ei:7 12v9m:8 r4+G:9 15BxW:8 ooCW:7 15Cpm:8 onKG:7 15Cpm:8 r4+G:7 12v9m:8*2 r4+G:7 15Cpm:8 onKG:7*2 15Cpm:8 r4+G:7 12v9m:8*3 r4+G:7 15Cpm:8 onKG:7*2 15Cpm:8 r4+G:7 12v9m:8*2 r4+G:7 15Cpm:8 onKG:7*2 15Cpm:8 hsMG:7 1ERRm:8 fYiG:7*2 1ERRm:8 hsMG:7 1ERRm:8 fYiG:7 1ETBK:8 fYiG:7 1ERRm:8*4 hsMG:7 1ERRm:8 fYiG:7*4 1ERRm:8 hsMG:7 1ERRm:8 fYiG:7*5 1ERRm:8 hsMG:7 1ERRm:8 fYiG:7*4 1ERRm:8 hsMG:7 1ERRm:8 fYiG:7*5 1ERRm:8|AST4ADT,M3.2.0,M11.1.0",
  "-4Am,0 -4V+,0 -4PG,0 -3X0,1 -3X0,0 -4PG,0|-2MUE7G:1 fY9RE:2 1+UR3o:3 x+Bm:2 x/yG:3*3 +Hrm:2 viIG:3 +Hrm:2 x/yG:3 x+Bm:2*3 r4+G:3 12v9m:2 r4+G:3 15Cpm:2 onKG:3*2 15Cpm:2 r4+G:3 12v9m:2*2 r4+G:3 15Cpm:2 onKG:3*2 15Cpm:2 r4+G:3 12v9m:2*3 r4+G:3 15Cpm:2 onKG:3*2 15Cpm:2 r4+G:3 12v9m:2*2 r4+G:3 15Cpm:2 onKG:3*2 15Cpm:2 hsMG:3 1ERRm:2 fYiG:3*2 1ERRm:2 hsMG:3 1ERRm:2 fYiG:3*4 1ERRm:2 fYiG:4 5gE20:3 1ERRm:2 fYiG:3*2 1ERRm:2 hsMG:3 1ERRm:2 fYiG:3*5 1ERRm:2 hsMG:3 1ERRm:2 fYiG:3*4 1ERRm:2 hsMG:3 1ERRm:2 fYiG:3*5 1ERRm:2|EST5EDT,M3.2.0,M11.1.0",
  "-3da,0 -3X0,0|-1k2ykS:1|AST4",
  "-3cm,0 -3X0,0|-1kAXvG:1|AST4",
  "-5JS,0 -4PG,1 -5HW,0|-1WOXKa:2 1djy64:1 T+fm:2 HNk6G:1 eslm:2 E6mgG:1 tMtm:2 RY/MG:1 olZm:2|CST6",
  "-4hO,0 -4cO,0 -3X0,1 -4PG,0|-2MUDce:1 1D7Hl0:3 1qShgu:2 Mkbm:3 1KZXc/:3|<-05>5",
  "-3Q7,0 -3X0,0 -3Iy,0 -2em,0 -3X0,0|-1jul1v:1 6l6kv:2 1nfOfy:3 VLZi4:1 1MAhy/:1|<-04>4",
  "-3kW,0 -2em,1 -3X0,0 -2em,1 -2em,1|-1/3bHW:2 PypCW:1 yJHm:2 2ud8m:1 10bVm:2 2uZdm:1 avdm:2 1IQKG:1 eCZm:2 1E86G:1 gB7m:2 1G6gG:1 dtTm:2 1G6gG:1 i9hm:2 1BqSG:1 mm/m:2 1BqSG:1 dYNm:2 1BqSG:1 mm/m:2 1BqSG:1 dDHm:2 1GmsG:1 bZpm:2 1IQKG:1 fs1m:2 1E86G:1 kTLm:2 17D8G:1 mm/m:2 17D8G:1 p4fm:2 1BqSG:1 dDHm:2 1LOAG:1 dYNm:2 1GmsG:1 Ybzm:2 1BqSG:1 mm/m:2 17D8G:1 mm/m:2 1GRmG:1 dYNm:2 19WoG:1 mm/m:2 17D8G:1 mm/m:2 hu6m:3 6cn8G:4 FFbW:2 15EaG:1 olZm:2*4 2/WMG:1 olZm:2 15EaG:1*3 olZm:2 2/WMG:1 olZm:2 15EaG:1*3 olZm:2 4tUUG:1 x+Bm:2 x/yG:1*3 +Hrm:2 viIG:1 +Hrm:2 x/yG:1 x+Bm:2*4 x/yG:1 +Hrm:2 x/yG:1 x+Bm:2*4 x/yG:1 +Hrm:2 viIG:1 +Hrm:2 x/yG:1 x+Bm:2*4 x/yG:1 +Hrm:2 viIG:1 +Hrm:2 x/yG:1 x+Bm:2*3 r4+G:1 12v9m:2 r4+G:1 15Cpm:2 onKG:1*2 15Cpm:2 r4+G:1 12v9m:2*2 r4+G:1 15Cpm:2 onKG:1*2 15Cpm:2 r4+G:1 12v9m:2*3 r4+G:1 15Cpm:2 onKG:1*2 15Cpm:2 r4+G:1 12v9m:2*2 r4+G:1 15Cpm:2 onKG:1*2 15Cpm:2 hsMG:1 1ERRm:2 fYiG:1*2 1ERRm:2 hsMG:1 1ERRm:2 fYiG:1*5 1ERRm:2 hsMG:1 1ERRm:2 fYiG:1*4 1ERRm:2 hsMG:1 1ERRm:2 fYiG:1*5 1ERRm:2 hsMG:1 1ERRm:2 fYiG:1*4 1ERRm:2 hsMG:1 1ERRm:2 fYiG:1*5 1ERRm:2|AST4ADT,M3.2.0,M11.1.0",
  "-4qu,0 -4r0,0 -3X0,1 -4PG,0 -4PG,0 -3X0,1|-2MUDT8:1 12svd8:3 5SD7G:2 eCZm:3 LvmcG:2 T+fm:3 1P/UG:2 WIJm:3 1P/UG:2 T+fm:3 59xkG:2 T+fm:3 1P/UG:2 T+fm:3 ZH2uG:2 dtTm:3 1FSUG:2 fWxm:3 z+WG:2 p4fm:3 17YEG:2 mRvm:3 1C9YG:2 x+Bm:3 x/yG:2*2 +Hrm:3 x/yG:2 r3Dm:3 12wwG:2 rOJm:3 12bqG:2 rjPm:3 12GkG:2 x+Bm:3 x/yG:2 +Hrm:3 viIG:2 +Hrm:3 +JcG:2 olZm:3 r4+G:2 15Cpm:3 onKG:2 15Cpm:3 15EaG:2 olZm:3*3 15EaG:2 r3Dm:3 12wwG:2 r3Dm:3 onKG:2 15Cpm:3*2 r4+G:2 12v9m:3*2 viIG:2 10bVm:3 viIG:2 +Ik0:4 vhQ0:2*4 +Ik0:4 x/40:2 x/40:4 x/40:2 +Ik0:4 tNm0:5 15Di0:4 omS0:5 17XM0:4 omS0:5 15Di0:4*2 r460:5 12w20:4*2 omS0:5 4tTc0:4 hrU0:5 1C8g0:4 k980:5 19r00:4 hrU0:5 1C8g0:4 k980:5*2 1ESK0:4 k980:5 17XM0:4 fXq0:5 1ESK0:4*3 hrU0:5 1ESK0:4 fXq0:5*4 1ESK0:4 hrU0:5 1ESK0:4 fXq0:5*5 1ESK0:4 hrU0:5 1ESK0:4 fXq0:5*4 1ESK0:4 hrU0:5 1ESK0:4 fXq0:5*5 1ESK0:4|CST5CDT,M3.2.0/0,M11.1.0/1",
  "-6W8,0 -69m,0 -5HW,0 -5HW,1 -69m,0|-1QIHUG:1 AEaC0:2 6TIhm:4 skSG:3 olZm:4 yL2G:2 IxEfm:4 1bVHAm:3 12v9m:4 r4+G:3*2 12v9m:4|MST7",
  "-536,0 -4PG,1 -5HW,0 -5HW,0 -4PG,1 -4PG,1 -4PG,0 -3X0,1|-2X/05W:3 10eYtW:1 15Cpm:2 onKG:1 15Cpm:2 el4SG:1 WIJm:2 iBSG:4 6clNm:5 FHM0:2 15EaG:1 olZm:2*4 17YEG:1 mRvm:2 17YEG:1 olZm:2 15EaG:1*3 olZm:2 15EaG:6 4a/Tm:2 15EaG:6 KiHpm:7 x+Bm:6 x/yG:7 x+Bm:6 12fvIG:7 15Cpm:6 hsMG:7 1ERRm:6 fYiG:7*2 1ERRm:6 hsMG:7 1ERRm:6 fYiG:7*5 1ERRm:6 hsMG:7 1ERRm:6 fYiG:7*4 1ERRm:6 hsMG:7 1ERRm:6 fYiG:7*5 1ERRm:6 hsMG:7 1ERRm:6 fYiG:7*4 1ERRm:6 hsMG:7 1ERRm:6 fYiG:7*5 1ERRm:6|EST5EDT,M3.2.0,M11.1.0",
  "-54s,0 -4PG,1 -5HW,0 -4PG,1 -4PG,1 -5HW,0 -4PG,0 -5HW,0|-2X/05W:5 10eYtW:1 15Cpm:2 onKG:1 15Cpm:2 fxYCG:3 6clNm:4 FHM0:2 2zCiG:1 olZm:2 15EaG:1*2 olZm:2 17YEG:1 mRvm:2 17YEG:1 olZm:2 15EaG:1*4 +Hrm:2 x/yG:1 x+Bm:2 x/yG:1 olZm:2 15EaG:1*2 x+Bm:2 x/yG:1 +Hrm:2 x/yG:1 x+Bm:2 x/yG:6 2pyJm:2 6cD+G:1 x+Bm:2 x/yG:1*4 +Hrm:2 x/yG:1 x+Bm:2*2 N5SG:1 1Wuhm:2 dF2G:1 1Gl5m:2 x/yG:1 +Hrm:2 viIG:1 +Hrm:2 x/yG:1 x+Bm:2*4 x/yG:1 +Hrm:2 viIG:1 +Hrm:2 x/yG:1 x+Bm:2*3 r4+G:1 12v9m:2 r4+G:1 15Cpm:2 onKG:1*2 15Cpm:2 r4+G:1 12v9m:6 R9HA0:1 15Di0:2 hsMG:1 1ERRm:2 fYiG:1*2 1ERRm:2 hsMG:1 1ERRm:2 fYiG:1*5 1ERRm:2 hsMG:1 1ERRm:2 fYiG:1*4 1ERRm:2 hsMG:1 1ERRm:2 fYiG:1*5 1ERRm:2 hsMG:1 1ERRm:2 fYiG:1*4 1ERRm:2 hsMG:1 1ERRm:2 fYiG:1*5 1ERRm:2|CST6CDT,M3.2.0,M11.1.0",
  "-53p,0 -4PG,1 -5HW,0 -4PG,1 -4PG,1 -5HW,0 -4PG,0 -3X0,1|-2X/05W:5 10eYtW:1 15Cpm:2 onKG:1 15Cpm:2 fxYCG:3 6clNm:4 FHM0:2 AVOsG:1 olZm:2 4rAqG:1 olZm:2 15EaG:1 olZm:2 17YEG:1 olZm:2 15EaG:1*4 olZm:2 17YEG:6 F23nm:7 x+Bm:6 x/yG:7*2 +Hrm:6 x/yG:7 x+Bm:6*2 N5SG:1 1Wva0:6 dEA0:7 1Gl5m:6 vFl0G:7 15Cpm:6 hsMG:7 1ERRm:6 fYiG:7*2 1ERRm:6 hsMG:7 1ERRm:6 fYiG:7*5 1ERRm:6 hsMG:7 1ERRm:6 fYiG:7*4 1ERRm:6 hsMG:7 1ERRm:6 fYiG:7*5 1ERRm:6 hsMG:7 1ERRm:6 fYiG:7*4 1ERRm:6 hsMG:7 1ERRm:6 fYiG:7*5 1ERRm:6|EST5EDT,M3.2.0,M11.1.0",
  "-57J,0 -4PG,1 -5HW,0 -4PG,1 -4PG,1 -5HW,0 -4PG,0 -3X0,1|-2X/05W:5 10eYtW:1 15Cpm:2 onKG:1 15Cpm:2 fxYCG:3 6clNm:4 FHM0:2 I1ZFm:1 mTgG:2 17YEG:1 olZm:2 15EaG:1*4 olZm:2 17YEG:1 x+Bm:2 x/yG:1*3 x+Bm:2 x/yG:6 2sFzm:2 x/yG:1 x+Bm:2*4 x/yG:1 +Hrm:2 x/yG:1 x+Bm:2*2 N5SG:1 1Wuhm:2 dF2G:1 1Gl5m:2 x/yG:1 +Hrm:2 viIG:1 +Hrm:6 rTUE0:1 15Di0:2 hsMG:1 1ERRm:6 fXq0:7 1ERRm:6 fYiG:7 1ERRm:6 hsMG:7 1ERRm:6 fYiG:7*5 1ERRm:6 hsMG:7 1ERRm:6 fYiG:7*4 1ERRm:6 hsMG:7 1ERRm:6 fYiG:7*5 1ERRm:6 hsMG:7 1ERRm:6 fYiG:7*4 1ERRm:6 hsMG:7 1ERRm:6 fYiG:7*5 1ERRm:6|EST5EDT,M3.2.0,M11.1.0",
  "-55N,0 -4PG,1 -5HW,0 -4PG,1 -4PG,1 -5HW,0 -4PG,0 -3X0,1 -4PG,1 -5HW,0|-2X/05W:5 10eYtW:1 15Cpm:2 onKG:1 15Cpm:2 fxYCG:3 6clNm:4 FHM0:2 I1ZFm:1 mTgG:2 17YEG:1 olZm:2 15EaG:1*4 olZm:2 17YEG:1 x+Bm:2 x/yG:1*2 x+Bm:2 x/yG:6 6cCDm:2 x/yG:1 x+Bm:2 x/yG:7 xzJW:6 x/yG:7 x+Bm:6 12fvIG:1 15Di0:2 hsMG:1 1ERRm:2 fYiG:1*2 1ERRm:2 hsMG:1 1ERRm:2 fYiG:1*5 1ERRm:2 hsMG:1 1ERRm:2 fYiG:1*4 1ERRm:2 hsMG:1 1ERRm:2 fYiG:1*5 1ERRm:2 hsMG:1 1ERRm:2 fYiG:1*4 1ERRm:2 hsMG:1 1ERRm:2 fYiG:1*5 1ERRm:2|CST6CDT,M3.2.0,M11.1.0",
  "-4/0,0 -4PG,1 -5HW,0 -4PG,1 -4PG,1 -5HW,0 -4PG,0 -3X0,1|-2X/05W:5 10eYtW:1 15Cpm:2 onKG:1 15Cpm:2 fxYCG:3 6clNm:4 FHM0:2 G7JEG:6 SETzm:7 x+Bm:6 x/yG:7*2 +Hrm:6 x/yG:7 x+Bm:6 +tfOG:7 15Cpm:6 hsMG:7 1ERRm:6 fYiG:7*2 1ERRm:6 hsMG:7 1ERRm:6 fYiG:7*5 1ERRm:6 hsMG:7 1ERRm:6 fYiG:7*4 1ERRm:6 hsMG:7 1ERRm:6 fYiG:7*5 1ERRm:6 hsMG:7 1ERRm:6 fYiG:7*4 1ERRm:6 hsMG:7 1ERRm:6 fYiG:7*5 1ERRm:6|EST5EDT,M3.2.0,M11.1.0",
  "-58F,0 -4PG,1 -5HW,0 -4PG,1 -4PG,1 -5HW,0 -4PG,0 -3X0,1|-2X/05W:5 10eYtW:1 15Cpm:2 onKG:1 15Cpm:2 fxYCG:3 6clNm:4 FHM0:2 15EaG:1 olZm:2 CNM+G:1 olZm:2 15EaG:1 olZm:2 17WTm:1 mTgG:2 17YEG:1 olZm:2 15EaG:1*4 +Hrm:2 x/yG:1 mRvm:2 17YEG:1 x+Bm:2 x/yG:1 x+Bm:2 x/yG:6 9Q9Pm:7 x+Bm:6 x/yG:7 x+Bm:6 12fvIG:1 15Di0:2 hsMG:1 1ERRm:6 fXq0:7 1ERRm:6 fYiG:7 1ERRm:6 hsMG:7 1ERRm:6 fYiG:7*5 1ERRm:6 hsMG:7 1ERRm:6 fYiG:7*4 1ERRm:6 hsMG:7 1ERRm:6 fYiG:7*5 1ERRm:6 hsMG:7 1ERRm:6 fYiG:7*4 1ERRm:6 hsMG:7 1ERRm:6 fYiG:7*5 1ERRm:6|EST5EDT,M3.2.0,M11.1.0",
  "-54n,0 -4PG,1 -5HW,0 -4PG,1 -4PG,1 -5HW,0 -4PG,0 -3X0,1|-2X/05W:5 10eYtW:1 15Cpm:2 onKG:1 15Cpm:2 fxYCG:3 6clNm:4 FHM0:2 15EaG:1 olZm:2*4 17YEG:1 mRvm:2 17YEG:1 olZm:2 15EaG:1*4 +Hrm:2 x/yG:1 x+Bm:2 x/yG:1 olZm:2 15EaG:1*3 olZm:2 17YEG:6 F23nm:7 x+Bm:6 x/yG:7 x+Bm:6 12fvIG:1 15Di0:2 hsMG:7 1EQZW:6 fYiG:7 1ERRm:6*2 hsMG:7 1ERRm:6 fYiG:7*5 1ERRm:6 hsMG:7 1ERRm:6 fYiG:7*4 1ERRm:6 hsMG:7 1ERRm:6 fYiG:7*5 1ERRm:6 hsMG:7 1ERRm:6 fYiG:7*4 1ERRm:6 hsMG:7 1ERRm:6 fYiG:7*5 1ERRm:6|EST5EDT,M3.2.0,M11.1.0",
  "0,0 -69m,1 -720,0 -69m,0 -5HW,1|-V+R60:2 aMjaW:1 x+Bm:2 x/yG:1*4 +Hrm:2 viIG:1 +Hrm:2 x/yG:1 x+Bm:2 x/yG:4 xzJW:3 x/yG:4 x+Bm:3*2 x/yG:4 +Hrm:3 viIG:4 +Hrm:3 x/yG:4 x+Bm:3*3 r4+G:4 12v9m:3 r4+G:4 15Cpm:3 onKG:4*2 15Cpm:3 r4+G:4 12v9m:3*2 r4+G:4 15Cpm:3 onKG:4*2 15Cpm:3 r4+G:4 12v9m:3*3 r4+G:4 15Cpm:3 onKG:4*2 15Cpm:3 r4+G:4 12v9m:3*2 r4+G:4 15Cpm:3 onKG:4*2 15Cpm:3 hsMG:4 1ERRm:3 fYiG:4*2 1ERRm:3 hsMG:4 1ERRm:3 fYiG:4*5 1ERRm:3 hsMG:4 1ERRm:3 fYiG:4*4 1ERRm:3 hsMG:4 1ERRm:3 fYiG:4*5 1ERRm:3 hsMG:4 1ERRm:3 fYiG:4*4 1ERRm:3 hsMG:4 1ERRm:3 fYiG:4*5 1ERRm:3|MST7MDT,M3.2.0,M11.1.0",
  "0,0 -3X0,1 -4PG,0 -3X0,1 -3X0,1 -5HW,0 -4PG,1 -3X0,1 -4PG,0|-parw0:4 5jrBm:1 FGTm:2 o006G:3 x+Bm:2 x/yG:3*4 +Hrm:2 viIG:3 +Hrm:2 x/yG:3 x+Bm:2*4 x/yG:3 +Hrm:2 viIG:3 +Hrm:2 x/yG:3 x+Bm:2*3 r4+G:3 12v9m:2 r4+G:3 15Cpm:2 onKG:3*2 15Cpm:2 r4+G:3 12v9m:2*2 r4+G:3 15Cpm:2 onKG:3*2 15Cpm:2 r4+G:3 12v9m:2*3 r4+G:3 15Cpm:5 ooCW:6 15Cpm:2 omS0:3 15Cpm:2 r4+G:3 12v9m:2*2 r4+G:3 15Cpm:2 onKG:3*2 15Cpm:2 hsMG:3 1ERRm:2 fYiG:3*2 1ERRm:2 hsMG:3 1ERRm:2 fYiG:3*5 1ERRm:2 hsMG:3 1ERRm:2 fYiG:3*4 1ERRm:2 hsMG:3 1ERRm:2 fYiG:3*5 1ERRm:2 hsMG:3 1ERRm:2 fYiG:3*4 1ERRm:2 hsMG:3 1ERRm:2 fYiG:3*5 1ERRm:2|EST5EDT,M3.2.0,M11.1.0",
  "-4V+,0 -4V+,0 -4PG,0 -3X0,1|-2MUDo2:1 fY960:2 1qVMHo:3 1Wuhm:2 dF2G:3 1Gl5m:2 x/yG:3 +Hrm:2 viIG:3 +Hrm:2 x/yG:3 x+Bm:2*4 x/yG:3 +Hrm:2 viIG:3 +Hrm:2|EST5",
  "DDx,0 -7u5,0 -720,0 -69m,1 -69m,1 -69m,1 -720,1 -7wG,0 -720,1 -7wG,0|-30FG8l:1 zn3Jq:2 1E0UVR:3 6cjdG:4 FJ6W:2 iLo4G:5 x+Bm:2 x/yG:5*2 +Hrm:2 x/yG:5 x+Bm:2*2 N5SG:5 1Wuhm:2 dF2G:5 1Gl5m:2 x/yG:5 +Hrm:2 viIG:5 +Hrm:2 x/yG:5 x+Bm:2*2 x/yG:6 x/40:2 x/40:5 x+Bm:2 x/yG:5 +Hrm:2 viIG:5 +Hrm:7 ADw0:9 nowW:8 x+Bm:9 x/yG:8*2 x+Bm:9 r4+G:8 12v9m:9 r4+G:8 15Cpm:9 onKG:8*2 15Cpm:9 r4+G:8 12v9m:9*2 r4+G:8 15Cpm:9 onKG:8*2 15Cpm:9 r4+G:8 12v9m:9*3 r4+G:8 15Cpm:9 onKG:8*2 15Cpm:9 r4+G:8 12v9m:9*2 r4+G:8 15Cpm:9 onKG:8*2 15Cpm:9 hsMG:8 1ERRm:9 fYiG:8*2 1ERRm:9 hsMG:8 1ERRm:9 fYiG:8*5 1ERRm:9 hsMG:8 1ERRm:9 fYiG:8*4 1ERRm:9 hsMG:8 1ERRm:9 fYiG:8*5 1ERRm:9 hsMG:8 1ERRm:9 fYiG:8*4 1ERRm:9 hsMG:8 1ERRm:9 fYiG:8*5 1ERRm:9|AKST9AKDT,M3.2.0,M11.1.0",
  "-51c,0 -4PG,1 -5HW,0 -5HW,0 -4PG,1 -4PG,1 -4PG,0 -3X0,1|-2X/05W:3 10eYtW:1 15Cpm:2 onKG:1 15Cpm:2 2sHkG:1 eXfm:2 azpqG:1 olZm:2 iBSG:4 6clNm:5 FHM0:2 15Cqi:1 BZ9K:2 7MgmG:1 mRvm:2 17YEG:1 olZm:2 15EaG:1*4 olZm:2 17YEG:1 x+Bm:2 x/yG:1*4 +Hrm:2 x/yG:1 Rg/m:6 CkQg0:7 x+Bm:6 x/yG:7*3 +Hrm:6 x/yG:7 x+Bm:6*2 N5SG:1 1Wva0:6 dEA0:7 1Gl5m:6 x/yG:7 +Hrm:6 viIG:7 +Hrm:6 x/yG:7 x+Bm:6*4 x/yG:7 +Hrm:6 viIG:7 +Hrm:6 x/yG:7 x+Bm:6*3 r4+G:7 12v9m:6 r4+G:7 15Cpm:6 onKG:7*2 15Cpm:6 r4+G:7 12v9m:6*2 r4+G:7 15Cpm:6 onKG:7*2 15Cpm:6 r4+G:7 12v9m:6*3 r4+G:7 15Cpm:6 onKG:7*2 15Cpm:6 r4+G:7 12v9m:6*2 r4+G:7 15Cpm:6 onKG:7*2 15Cpm:6 hsMG:7 1ERRm:6 fYiG:7*2 1ERRm:6 hsMG:7 1ERRm:6 fYiG:7*5 1ERRm:6 hsMG:7 1ERRm:6 fYiG:7*4 1ERRm:6 hsMG:7 1ERRm:6 fYiG:7*5 1ERRm:6 hsMG:7 1ERRm:6 fYiG:7*4 1ERRm:6 hsMG:7 1ERRm:6 fYiG:7*5 1ERRm:6|EST5EDT,M3.2.0,M11.1.0",
  "-4+C,0 -4PG,1 -5HW,0 -4PG,1 -4PG,1 -5HW,0 -3X0,1 -4PG,0|-2X/05W:5 10eYtW:1 15Cpm:2 onKG:1 15Cpm:2 fxYCG:3 6clNm:4 FHM0:2 gTpyG:1 x+Bm:2 x/yG:1*3 +Hrm:2 x/yG:1 x+Bm:2*2 N5SG:1 1Wuhm:2 dF2G:1 1Gl5m:2 x/yG:1 +Hrm:2 viIG:1 +Hrm:2 x/yG:1 x+Bm:2*4 x/yG:1 +Hrm:2 viIG:1 +Hrm:2 x/yG:1 x+Bm:2*3 r4+G:1 12v9m:2 r4+G:1 15Cpm:2 onKG:1*2 15Cpm:2 r4+G:1 12v9m:2*2 r4+G:1 15Cpm:2 onKG:1*2 15Cpm:2 r4+G:1 12v9m:2*3 r4+G:1 15Cpm:2 onKG:1 15Cpm:7 omS0:6 15Cpm:7 r4+G:6 12v9m:7*2 r4+G:6 15Cpm:7 onKG:6*2 15Cpm:7 hsMG:6 1ERRm:7 fYiG:6*2 1ERRm:7 hsMG:6 1ERRm:7 fYiG:6*5 1ERRm:7 hsMG:6 1ERRm:7 fYiG:6*4 1ERRm:7 hsMG:6 1ERRm:7 fYiG:6*5 1ERRm:7 hsMG:6 1ERRm:7 fYiG:6*4 1ERRm:7 hsMG:6 1ERRm:7 fYiG:6*5 1ERRm:7|EST5EDT,M3.2.0,M11.1.0",
  "-3/a,0 -3/a,0 -37K,1 -3X0,0|-2MUEIS:1 1Ebtk0:2 q3xm:3 374Ieh:3|<-04>4",
  "-4Wy,0 -4XK,0 -3X0,1 -4PG,0|-2MUDn4:1 YxHqO:3 tMmby:2 TfZm:3 wMUG:2 x+Bm:3 x/yG:2 x+Bm:3 1M6RIG:2 TfZm:3 1QfgG:2 TfZm:3 5BbCG:2 TfZm:3 73uQG:2 TfZm:3 1IP6E/:3|<-05>5",
  "-6xQ,0 -69m,1 -720,0 -69m,1 -69m,1 -720,0|-2X++L0:5 10eYtW:1 15Cpm:2 onKG:1 15Cpm:2 fxYCG:3 6cjdG:4 FJ6W:2 4dKvC:1 1WZaq:2 2VXO0:1 mSo0:2 17XM0:1 omS0:2 15Di0:1*4 omS0:2 17XM0:1 omS0:2 15Di0:1*4 omS0:2 17XM0:1 mSo0:2 17XM0:1 x/40:2 x/40:1*3 +Ik0:2 vhQ0:1 +Ik0:2 x/yG:1 x+Bm:2*4 x/yG:1 +Hrm:2 x/yG:1 x+Bm:2*2 N5SG:1 1Wuhm:2 dF2G:1 1Gl5m:2 x/yG:1 +Hrm:2 viIG:1 +Hrm:2 x/yG:1 x+Bm:2*4 x/yG:1 +Hrm:2 viIG:1 +Hrm:2 x/yG:1 x+Bm:2*3 r4+G:1 12v9m:2 r4+G:1 15Cpm:2 onKG:1*2 15Cpm:2 r4+G:1 12v9m:2*2 r4+G:1 15Cpm:2 onKG:1*2 15Cpm:2 r4+G:1 12v9m:2*3 r4+G:1 15Cpm:2 onKG:1*2 15Cpm:2 r4+G:1 12v9m:2*2 r4+G:1 15Cpm:2 onKG:1*2 15Cpm:2 hsMG:1 1ERRm:2 fYiG:1*2 1ERRm:2 hsMG:1 1ERRm:2 fYiG:1*5 1ERRm:2 hsMG:1 1ERRm:2 fYiG:1*4 1ERRm:2 hsMG:1 1ERRm:2 fYiG:1*5 1ERRm:2 hsMG:1 1ERRm:2 fYiG:1*4 1ERRm:2 hsMG:1 1ERRm:2 fYiG:1*5 1ERRm:2|PST8PDT,M3.2.0,M11.1.0",
  "-25y,0 -1mW,1 -2em,0|-1fLPU4:2 XPE5a:1 xVR0:2 y/EG:1 xJ/m:2 VMZeG:1 iqm0:2 1BUU0:1 dtTm:2 1GRmG:1 eCZm:2 1GRmG:1 TfZm:2 KGyoG:1 RLvm:2 1kmOG:1 JRfm:2 1GmsG:1 TfZm:2 1GmsG:1 dYNm:2 1GmsG:1 dtTm:2 XFX2G:1 hqbm:2 19ruG:1 avdm:2 1JPcG:1 Ybzm:2 1J4WG:1 Ybzm:2 1LOAG:1 dDHm:2 Agx8G:1 dDHm:2 6sNaG:1 mRvm:2 19ruG:1 4cRm:2 1rhMG:1 fWxm:2 13aF5V:2|<-03>3",
  "-53a,0 -53e,0 -5HW,0 -4PG,0 -4PG,1 -5HW,0|-2MUDES:1 1JfXo4:2 195Yju:3 3OCdm:2 7hRgG:4 WdPm:2 1NMkG:4 WdPm:2 LhJ/G:3 1Nxem:2 WfAG:3 7XX5m:2 FZj6G:4 vgXm:2 15GKm:4 okhW:2|CST6",
  "-3X4,0 -2em,1 -3X0,0|-1fLO2y:2 XPDYi:1 xVR0:2 y/EG:1 xJ/m:2 VMZeG:1 iqm0:2 1BUU0:1 dtTm:2 1GRmG:1 eCZm:2 1GRmG:1 TfZm:2 KGyoG:1 RLvm:2 1kmOG:1 JRfm:2 1GmsG:1 TfZm:2 1GmsG:1 dYNm:2 1GmsG:1 dtTm:2 XFX2G:1 hqbm:2 19ruG:1 avdm:2 1JPcG:1 Ybzm:2 AjEoG:1 fWxm:2 1IcItF:2|<-04>4",
  "-3ci,0 -3X0,0|-1ioCnK:1|AST4",
  "-3b4,0 -3b4,0 -3X0,0 -2em,1|-2MUEiy:1 e7BE0:2 21gQNy:3 vgXm:2|AST4",
  "-5je,0 -5HW,0 -4PG,1 -5HW,0|-1QIIMW:1 1ydnQW:2 15Cpm:3 D/BWG:2 12v9m:3 r4+G:2*3 15Cpm:3 onKG:2 15Cpm:3 +JcG:2 mRvm:3 +JcG:2 12v9m:3 r4+G:2*2 15Cpm:3 onKG:2*3 15Cpm:3 r4+G:2 12v9m:3*2 kA0G:2 1ERRm:3 fYiG:2*5 1ERRm:3 hsMG:2 1ERRm:3 fYiG:2*4 1ERRm:3 hsMG:2 1ERRm:3 fYiG:2*5 1ERRm:3 hsMG:2 1ERRm:3 fYiG:2*4 1ERRm:3 hsMG:2 1ERRm:3 fYiG:2*5 1ERRm:3|CST6CDT,M3.2.0,M11.1.0",
  "-6F4,0 -69m,0 -5HW,0 -5HW,1 -69m,0|-1QIHUG:1 AEaC0:2 6TIhm:4 skSG:3 olZm:4 yL2G:2 IxEfm:4 1bVHAm:3 12v9m:4 r4+G:3*3 15Cpm:4 onKG:3 15Cpm:4 +JcG:3 mRvm:4 +JcG:3 12v9m:4 r4+G:3*2 15Cpm:4 onKG:3*3 15Cpm:4 r4+G:3 12v9m:4*2 r4+G:3 15Cpm:4 onKG:3*2 15Cpm:4 r4+G:3 12v9m:4*3 r4+G:3 15Cpm:4 onKG:3*2 15Cpm:4 r4+G:3 12v9m:4*2 r4+G:3 15Cpm:4 onKG:3 15Cpm:4|MST7",
  "-58Z,0 -4PG,1 -5HW,0 -4PG,1 -4PG,1 -4PG,0 -5HW,0|-2UYBQT:2 zBkCT:1 15Cpm:2 onKG:1 15Cpm:2 fxYCG:3 6clNm:4 FHM0:2 15EaG:1 olZm:2 apbwG:1 +Hrm:2 4hyCG:5 7YBHm:1 x/40:2 N5SG:1 1Wuhm:2 dF2G:1 1Gl5m:2 x/yG:1 +Hrm:2 viIG:1 +Hrm:2 x/yG:1 x+Bm:2*4 x/yG:1 +Hrm:2 viIG:1 +Hrm:2 x/yG:1 x+Bm:2*3 r4+G:1 12v9m:2 r4+G:1 15Cpm:2 onKG:1*2 15Cpm:2 r4+G:1 12v9m:2*2 r4+G:1 15Cpm:2 onKG:1*2 15Cpm:2 r4+G:1 12v9m:2*3 r4+G:1 15Cpm:2 onKG:1*2 15Cpm:2 r4+G:1 12v9m:2*2 r4+G:1 15Cpm:2 onKG:1*2 15Cpm:2 hsMG:1 1ERRm:2 fYiG:1*2 1ERRm:2 hsMG:1 1ERRm:2 fYiG:1*5 1ERRm:2 hsMG:1 1ERRm:2 fYiG:1*4 1ERRm:2 hsMG:1 1ERRm:2 fYiG:1*5 1ERRm:2 hsMG:1 1ERRm:2 fYiG:1*4 1ERRm:2 hsMG:1 1ERRm:2 fYiG:1*5 1ERRm:2|CST6CDT,M3.2.0,M11.1.0",
  "-5G4,0 -5HW,0 -4PG,0 -4PG,1 -5HW,0|-1QIIMW:1 1mr0kW:2 1cVHm:4 PGfkG:3 12v9m:4 r4+G:3*3 15Cpm:4 onKG:3 15Cpm:4 +JcG:3 mRvm:4 +JcG:3 12v9m:4 r4+G:3*2 15Cpm:4 onKG:3*3 15Cpm:4 r4+G:3 12v9m:4*2 r4+G:3 15Cpm:4 onKG:3*2 15Cpm:4 r4+G:3 12v9m:4*3 r4+G:3 15Cpm:4 onKG:3*2 15Cpm:4 r4+G:3 12v9m:4*2 r4+G:3 15Cpm:4 onKG:3 15Cpm:4|CST6",
  "DOc,0 -7jQ,0 -720,0 -69m,1 -69m,1 -69m,1 -7wG,0 -720,1|-30FG8l:1 zn399:2 1E0Ug6:3 6cjdG:4 FJ6W:2 iLo4G:5 x+Bm:2 x/yG:5*2 +Hrm:2 x/yG:5 x+Bm:2*2 N5SG:5 1Wuhm:2 dF2G:5 1Gl5m:2 x/yG:5 +Hrm:2 viIG:5 +Hrm:2 x/yG:5 x+Bm:2*4 x/yG:5 +Hrm:2 viIG:5 +Hrm:2 yCwqG:6 hsMG:7 1ERRm:6 fYiG:7*2 1ERRm:2 POE0:6 GAUG:7 1ERRm:6 fYiG:7 1ERRm:6 hsMG:7 1ERRm:6 fYiG:7*5 1ERRm:6 hsMG:7 1ERRm:6 fYiG:7*4 1ERRm:6 hsMG:7 1ERRm:6 fYiG:7*5 1ERRm:6|AKST9AKDT,M3.2.0,M11.1.0",
  "-5pq,0 -69m,0 -5HW,0 -5HW,1 -69m,0 -4PG,1 -4PG,1 -5HW,0|-1QIHUG:1 AEaC0:2 6TIhm:4 skSG:3 olZm:4 yL2G:2 CuIbm:5 k8Fm:2 2lhsG:5 bEjm:2 55+cG:6 j8zm:2 AuR+G:5 tMtm:2 1LyF8m:5 12v9m:2 r4+G:5*3 15Cpm:2 onKG:5 15Cpm:2 +JcG:5 mRvm:2 +JcG:5 12v9m:2 r4+G:5*2 15Cpm:2 onKG:5*3 15Cpm:2 r4+G:5 12v9m:2*2 r4+G:5 15Cpm:2 onKG:5*2 15Cpm:2 r4+G:5 12v9m:2*3 r4+G:5 15Cpm:2 onKG:5*2 15Cpm:2 r4+G:5 12v9m:2*2 r4+G:5 15Cpm:2 onKG:5 15Cpm:2|CST6",
  "-3Ie,0 -3X0,0 -2em,0 -1mW,1|-1k8EZO:1 21ZqoO:2 D1u4G:3 12v9m:2 r4+G:3 15Cpm:2 onKG:3*2 15Cpm:2 r4+G:3 12v9m:2*2 r4+G:3 15Cpm:2 onKG:3*2 15Cpm:2 r4+G:3 12v9m:2*3 r4+G:3 15Cpm:2 onKG:3*2 15Cpm:2 r4+G:3 12v9m:2*2 r4+G:3 15Cpm:2 onKG:3*2 15Cpm:2 hsMG:3 1ERRm:2 fYiG:3*2 1ERRm:2 hsMG:3 1ERRm:2 fYiG:3*5 1ERRm:2 hsMG:3 1ERRm:2 fYiG:3*4 1ERRm:2 hsMG:3 1ERRm:2 fYiG:3*5 1ERRm:2 hsMG:3 1ERRm:2 fYiG:3*4 1ERRm:2 hsMG:3 1ERRm:2 fYiG:3*5 1ERRm:2 Q1k/:2|<-03>3<-02>,M3.2.0,M11.1.0",
  "-3oy,0 -4PG,0 -2em,1 -3X0,0 -2em,1 -2em,1|-2XuH94:1 YqiYK:3 TniyG:2 10bVm:3 RWLk0:2 T+fm:3 1P/UG:2*5 T+fm:3 1NMkG:2 dDHm:3 1EoIG:2 fBrm:3 1AA+G:2 m6pm:3 iXQW:4 6cn8G:5 FFbW:3 15EaG:2 olZm:3*4 17YEG:2 mRvm:3 17YEG:2 olZm:3 15EaG:2*4 olZm:3 17YEG:2 olZm:3 15EaG:2 x+Bm:3 x/yG:2*3 +Hrm:3 x/yG:2 x+Bm:3*4 x/yG:2 +Hrm:3 viIG:2 +Hrm:3 x/yG:2 x+Bm:3*4 x/yG:2 +Hrm:3 x/yG:2 x+Bm:3 2p+4G:2 x+Bm:3 x/yG:2*2 +Hrm:3 viIG:2 +Hrm:3 x/yG:2 x+Bm:3*4 x/yG:2 +Hrm:3 viIG:2 +Hrm:3 x/yG:2 x+Bm:3*3 r4+G:2 12v9m:3 r4+G:2 15Cpm:3 onKG:2*2 15Cpm:3 r4+G:2 12v9m:3*2 r3Ei:2 15Cpm:3 onKG:2*2 15Cpm:3 r4+G:2 12v9m:3*3 r4+G:2 15Cpm:3 onKG:2*2 15Cpm:3 r4+G:2 12v9m:3*2 r4+G:2 15Cpm:3 onKG:2*2 15Cpm:3 hu5q:2 1ERRm:3 fYiG:2*2 1ERRm:3 hsMG:2 1ERRm:3 fYiG:2*5 1ERRm:3 hsMG:2 1ERRm:3 fYiG:2*4 1ERRm:3 hsMG:2 1ERRm:3 fYiG:2*5 1ERRm:3 hsMG:2 1ERRm:3 fYiG:2*4 1ERRm:3 hsMG:2 1ERRm:3 fYiG:2*5 1ERRm:3|AST4ADT,M3.2.0,M11.1.0",
  "-5uC,0 -69m,0 -5HW,0 -5HW,1 -69m,0 -4PG,1 -5HW,0|-1QIIMW:1 AEb4G:2 6TIhm:4 skSG:3 olZm:4 yL2G:2 1fM6eG:5 15Cpm:2 D/BWG:5 12v9m:2 r4+G:5*3 15Cpm:2 onKG:5 15Cpm:2 +JcG:5 mRvm:2 +JcG:5 12v9m:2 r4+G:5*2 15Cpm:2 onKG:5*3 15Cpm:2 r4+G:5 12v9m:2*2 r4+G:5 15Cpm:2 onKG:5*2 15Cpm:2 r4+G:5 12v9m:2*3 r4+G:5 15Cpm:2 onKG:5*2 15Cpm:2 r4+G:5 12v9m:2*2 r4+G:5 15Cpm:2 onKG:5 15Cpm:2|CST6",
  "-3Ip,0 -3Ip,0 -3X0,0 -34u,0 -2em,1 -2em,0 -2Ce,1 -1mW,1 -1KO,1 -1mW,1|-1ponhD:1 MNQA0:2 6RLED:4 yJHm:3 yKc8:4 x+du:3*2 EGJy8:4 ol/u:3 15E88:4*3 ol/u:3 17Xo8:4 mSLu:3*2 +JA8:4 x+du:3 15E88:4 ol/u:3 eu48:4 2aoRu:6 Tf/u:5 UTX+8:6 vgzu:5 KnM8:7 G8jm:5 9ZPoG:7 vgXm:5 512CG:6 zzBu:5 2e6G8:7 GTpm:5 3VpYG:7 Rg/m:5 2p+4G:8 IRxe:6 viIG:5 awy8:7 WIJm:5 3FfyG:7 PNLm:5 1P/UG:7 T+fm:5 1UcoG:7 PNLm:5 IU8G:7 1g7Jm:5 EaR6G:7 P2Fm:5 1UcoG:7 Rg/m:5 1ETCG:7 dDHm:5 1ETCG:7 hqbm:5 1ETCG:7 fWxm:5 1C9YG:7 hqbm:5 LlDcG:7 +JcG:5 10dGG:7 olZm:5 12wwG:7 r3Dm:5 15EaG:7 olZm:5*2 15EaG:7 r3Dm:5 12wwG:7*2 r3Dm:5 15EaG:7 olZm:5*3 h13Q/:5|<-03>3",
  "-4fi,0 -3X0,1 -4PG,0 -3X0,1 -3X0,1|-2D4OSK:2 hoXg4:1 10bVm:2 p4De:1 14u9u:2 +LMm:1 mQ9G:2 1CBIm:1 eXfm:2 1FSUG:1 fWxm:2 1ETCG:1 fWxm:2 1C9YG:1 k8Fm:2 19ruG:1*3 mRvm:2 17YEG:1 olZm:2 15EaG:1*3 olZm:2 17YEG:1 mRvm:2 17YEG:1 olZm:2 15EaG:1*5 olZm:2 17YEG:1 mRvm:2 17YEG:1 3Mv80:3 6cmG0:4 FGTm:2 15EaG:1 olZm:2*3 15EaG:1 17WTm:2 onKG:1 15Cpm:2 onKG:1 olZm:2 15EaG:1*4 olZm:2 17YEG:1 olZm:2 15EaG:1 x+Bm:2 x/yG:1*3 +Hrm:2 x/yG:1 x+Bm:2*4 x/yG:1 +Hrm:2 viIG:1 +Hrm:2 x/yG:1 x+Bm:2*4 x/yG:1 +Hrm:2 x/yG:1 x+Bm:2*4 x/yG:1 +Hrm:2 viIG:1 +Hrm:2 x/yG:1 x+Bm:2*4 x/yG:1 +Hrm:2 viIG:1 +Hrm:2 x/yG:1 x+Bm:2*3 r4+G:1 12v9m:2 r4+G:1 15Cpm:2 onKG:1*2 15Cpm:2 r4+G:1 12v9m:2*2 r4+G:1 15Cpm:2 onKG:1*2 15Cpm:2 r4+G:1 12v9m:2*3 r4+G:1 15Cpm:2 onKG:1*2 15Cpm:2 r4+G:1 12v9m:2*2 r4+G:1 15Cpm:2 onKG:1*2 15Cpm:2 hsMG:1 1ERRm:2 fYiG:1*2 1ERRm:2 hsMG:1 1ERRm:2 fYiG:1*5 1ERRm:2 hsMG:1 1ERRm:2 fYiG:1*4 1ERRm:2 hsMG:1 1ERRm:2 fYiG:1*5 1ERRm:2 hsMG:1 1ERRm:2 fYiG:1*4 1ERRm:2 hsMG:1 1ERRm:2 fYiG:1*5 1ERRm:2|EST5EDT,M3.2.0,M11.1.0",
  "-3fK,0 -3X0,0|-1k2yhm:1|AST4",
  "-4YA,0 -3X0,1 -4PG,0 -3X0,1 -3X0,1|-1ioBrs:2 ulQp6:1 51LXm:2 AEoG:1 10C0W:3 LAPG:2 Yrjsm:4 x+Bm:2 x/yG:4 +Hrm:2 viIG:4 +Hrm:2 x/yG:4 x+Bm:2*4 x/yG:4 +Hrm:2 x/yG:4 x+Bm:2*4 x/yG:4 +Hrm:2 viIG:4 +Hrm:2 x/yG:4 x+Bm:2*4 x/yG:4 +Hrm:2 viIG:4 +Hrm:2 x/yG:4 x+Bm:2*3 r4+G:4 12v9m:2 r4+G:4 15Cpm:2 onKG:4*2 15Cpm:2 r4+G:4 12v9m:2*2 r4+G:4 15Cpm:2 onKG:4*2 15Cpm:2 r4+G:4 12v9m:2*3 r4+G:4 15Cpm:2 onKG:4*2 15Cpm:2 r4+G:4 12v9m:2*2 r4+G:4 15Cpm:2 onKG:4*2 15Cpm:2 hsMG:4 1ERRm:2 fYiG:4*2 1ERRm:2 hsMG:4 1ERRm:2 fYiG:4*5 1ERRm:2 hsMG:4 1ERRm:2 fYiG:4*4 1ERRm:2 hsMG:4 1ERRm:2 fYiG:4*5 1ERRm:2 hsMG:4 1ERRm:2 fYiG:4*4 1ERRm:2 hsMG:4 1ERRm:2 fYiG:4*5 1ERRm:2|EST5EDT,M3.2.0,M11.1.0",
  "-4LY,0 -3X0,1 -4PG,0 -4PG,0 -3X0,1 -3X0,1|-2X/0zm:3 10eYtW:1 15Cpm:2 onKG:1*2 17WTm:2 viIG:1 olZm:2 17YEG:1 mRvm:2 17YEG:1 olZm:2 15EaG:1*4 olZm:2 17YEG:1 olZm:2 15EaG:1*4 olZm:2 17YEG:1 mRvm:2 17YEG:1 olZm:2 15EaG:1*4 olZm:2 17YEG:1 mRvm:2 17YEG:1 olZm:2 15EaG:1 olZm:2 iBSG:4 6cmG0:5 FGTm:2 15EaG:1 olZm:2*4 17YEG:1 mRvm:2 17YEG:1 olZm:2 15EaG:1*4 +Hrm:2 x/yG:1 x+Bm:2*4 x/yG:1 +Hrm:2 x/yG:1 x+Bm:2*4 x/yG:1 +Hrm:2 viIG:1 +Hrm:2 x/yG:1 x+Bm:2*4 x/yG:1 +Hrm:2 x/yG:1 x+Bm:2*2 N5SG:1 1Wuhm:2 dF2G:1 1Gl5m:2 x/yG:1 +Hrm:2 viIG:1 +Hrm:2 x/yG:1 x+Bm:2*4 x/yG:1 +Hrm:2 viIG:1 +Hrm:2 x/yG:1 x+Bm:2*3 r4+G:1 12v9m:2 r4+G:1 15Cpm:2 onKG:1*2 15Cpm:2 r4+G:1 12v9m:2*2 r4+G:1 15Cpm:2 onKG:1*2 15Cpm:2 r4+G:1 12v9m:2*3 r4+G:1 15Cpm:2 onKG:1*2 15Cpm:2 r4+G:1 12v9m:2*2 r4+G:1 15Cpm:2 onKG:1*2 15Cpm:2 hsMG:1 1ERRm:2 fYiG:1*2 1ERRm:2 hsMG:1 1ERRm:2 fYiG:1*5 1ERRm:2 hsMG:1 1ERRm:2 fYiG:1*4 1ERRm:2 hsMG:1 1ERRm:2 fYiG:1*5 1ERRm:2 hsMG:1 1ERRm:2 fYiG:1*4 1ERRm:2 hsMG:1 1ERRm:2 fYiG:1*5 1ERRm:2|EST5EDT,M3.2.0,M11.1.0",
  "BPk,0 -9iI,0 -9gm,0 -8oW,1 -8oW,1 -9gm,0 -8oW,1 -7wG,0 -720,1 -7wG,0|-30FG8l:1 zn581:2 1E0VJ+:3 6cg+W:4 FLlG:2 eSGLm:5 3vXkW:6 x+Bm:5 x/yG:6*2 +Hrm:5 x/yG:6 x+Bm:5*2 N5SG:6 1Wuhm:5 dF2G:6 1Gl5m:5 x/yG:6 +Hrm:5 viIG:6 +Hrm:5 x/yG:6 x+Bm:5*4 x/yG:6 +Hrm:5 viIG:6 +Hrm:7 ABHG:9 nowW:8 x+Bm:9 x/yG:8*2 x+Bm:9 r4+G:8 12v9m:9 r4+G:8 15Cpm:9 onKG:8*2 15Cpm:9 r4+G:8 12v9m:9*2 r4+G:8 15Cpm:9 onKG:8*2 15Cpm:9 r4+G:8 12v9m:9*3 r4+G:8 15Cpm:9 onKG:8*2 15Cpm:9 r4+G:8 12v9m:9*2 r4+G:8 15Cpm:9 onKG:8*2 15Cpm:9 hsMG:8 1ERRm:9 fYiG:8*2 1ERRm:9 hsMG:8 1ERRm:9 fYiG:8*5 1ERRm:9 hsMG:8 1ERRm:9 fYiG:8*4 1ERRm:9 hsMG:8 1ERRm:9 fYiG:8*5 1ERRm:9 hsMG:8 1ERRm:9 fYiG:8*4 1ERRm:9 hsMG:8 1ERRm:9 fYiG:8*5 1ERRm:9|AKST9AKDT,M3.2.0,M11.1.0",
  "-1va,0 -uG,1 -1mW,0|-1fLPgS:2 XPDPi:1 xVR0:2 y/EG:1 xJ/m:2 VMZeG:1 iqm0:2 1BUU0:1 dtTm:2 1GRmG:1 eCZm:2 1GRmG:1 TfZm:2 KGyoG:1 RLvm:2 1kmOG:1 JRfm:2 1GmsG:1 TfZm:2 1GmsG:1 dYNm:2 1GmsG:1 dtTm:2 XFX2G:1 hqbm:2 19ruG:1 avdm:2 1JPcG:1 Ybzm:2 1J4WG:1 Ybzm:2 1LOAG:1 dDHm:2 I8V+G:1 mRvm:2 19ruG:1 2Inm:2 1t/0G:1 fWxm:2 13aFzl:2|<-02>2",
  "-5zh,0 -5HW,1 -69m,0 -5HW,1 -5HW,1 -69m,0 -4PG,1 -5HW,0|-2X+/DG:5 10eYtW:1 15Cpm:2 onKG:1 15Cpm:2 fxYCG:3 6ckVW:4 FIEG:2 ebrqG:1 x+Bm:2 x/yG:1*4 +Hrm:2 x/yG:1 x+Bm:2*2 N5SG:1 1Wuhm:2 dF2G:1 1Gl5m:2 x/yG:1 +Hrm:2 viIG:1 +Hrm:2 x/yG:1 x+Bm:2*4 x/yG:1 +Hrm:2 viIG:1 +Hrm:2 x/yG:1 x+Bm:2*3 r4+G:1 12v9m:2 r4+G:1 15Cpm:2 onKG:1*2 15Cpm:2 r4+G:1 12v9m:2*2 r4+G:1 15Cpm:2 onKG:1*2 15Cpm:2 r4+G:1 12v9m:2*3 r4+G:1 15Cpm:2 onKG:1*2 15Cpm:2 r4+G:1 12v9m:2*2 r4+G:1 15Cpm:2 onKG:1*2 15Cpm:2 hsMG:1 1ERRm:2 fYiG:1*2 1ERRm:2 hsMG:1 1ERRm:7 fXq0:6 1ERRm:7 fYiG:6*4 1ERRm:7 hsMG:6 1ERRm:7 fYiG:6*4 1ERRm:7 hsMG:6 1ERRm:7 fYiG:6*5 1ERRm:7 hsMG:6 1ERRm:7 fYiG:6*4 1ERRm:7 hsMG:6 1ERRm:7 fYiG:6*5 1ERRm:7|CST6CDT,M3.2.0,M11.1.0",
  "-5xu,0 -5HW,1 -69m,0 -5HW,1 -5HW,1 -69m,0 -4PG,1 -5HW,0|-2X+/DG:5 10eYtW:1 15Cpm:2 onKG:1 15Cpm:2 fxYCG:3 6ckVW:4 FIEG:2 ebrqG:1 x+Bm:2 x/yG:1*4 +Hrm:2 x/yG:1 x+Bm:2*2 N5SG:1 1Wuhm:2 dF2G:1 1Gl5m:2 x/yG:1 +Hrm:2 viIG:1 +Hrm:2 x/yG:1 x+Bm:2*4 x/yG:1 +Hrm:2 viIG:1 +Hrm:2 x/yG:1 x+Bm:2*3 r4+G:1 12v9m:2 r4+G:1 15Cpm:2 onKG:1*2 15Cpm:2 r4+G:1 12v9m:2 r4+G:1 12v9m:7 r460:6 15Cpm:7 onKG:6*2 15Cpm:7 r4+G:6 12v9m:7*3 r4+G:6 15Cpm:7 onKG:6*2 15Cpm:7 r4+G:6 12v9m:7*2 r4+G:6 15Cpm:7 onKG:6*2 15Cpm:7 hsMG:6 1ERRm:7 fYiG:6*2 1ERRm:7 hsMG:6 1ERRm:7 fYiG:6*5 1ERRm:7 hsMG:6 1ERRm:7 fYiG:6*4 1ERRm:7 hsMG:6 1ERRm:7 fYiG:6*5 1ERRm:7 hsMG:6 1ERRm:7 fYiG:6*4 1ERRm:7 hsMG:6 1ERRm:7 fYiG:6*5 1ERRm:7|CST6CDT,M3.2.0,M11.1.0",
  "-5yJ,0 -5HW,1 -69m,0 -5HW,1 -5HW,1 -69m,0 -4PG,1 -5HW,0|-2X+/DG:5 10eYtW:1 15Cpm:2 onKG:1 15Cpm:2 fxYCG:3 6ckVW:4 FIEG:2 ebrqG:1 x+Bm:2 x/yG:1*4 +Hrm:2 x/yG:1 x+Bm:2*2 N5SG:1 1Wuhm:2 dF2G:1 1Gl5m:2 x/yG:1 +Hrm:2 viIG:1 +Hrm:2 x/yG:1 x+Bm:2*4 x/yG:1 +Hrm:2 viIG:1 +Hrm:2 x/yG:1 x+Bm:2*3 r4+G:1 12v9m:2 r4+G:1 15Cpm:2 onKG:1*2 15Cpm:2 r4+G:1 12v9m:2*2 r4+G:1 15Cpm:2 onKG:1*2 15Cpm:2 r4+G:1 12v9m:2*3 r4+G:1 15Cpm:2 onKG:1*2 15Cpm:2 r4+G:1 12v9m:2 r4+G:1 12v9m:7 r460:6 15Cpm:7 onKG:6*2 15Cpm:7 hsMG:6 1ERRm:7 fYiG:6*2 1ERRm:7 hsMG:6 1ERRm:7 fYiG:6*5 1ERRm:7 hsMG:6 1ERRm:7 fYiG:6*4 1ERRm:7 hsMG:6 1ERRm:7 fYiG:6*5 1ERRm:7 hsMG:6 1ERRm:7 fYiG:6*4 1ERRm:7 hsMG:6 1ERRm:7 fYiG:6*5 1ERRm:7|CST6CDT,M3.2.0,M11.1.0",
  "-320,0 -2em,0 -2em,0 -1mW,1 -1mW,1 -1mW,0 -uG,1|-1aVvW0:1 1tpHHG:4 vdv0:2 x/40:3 x/40:2*3 x/40:3 +Ik0:2 x/40:3 x/40:2*5 x/40:3 +Ik0:2 x/40:3 x/40:2*5 +Ik0:3 15Di0:2 omS0:3*3 17XM0:2 mSo0:3*2 17XM0:2 omS0:3 15Di0:2*2 omS0:3 17XM0:2 mSo0:3*3 17XM0:2 omS0:3 15Di0:2*2 omS0:3 17XM0:2 mSo0:3*2 17XM0:2 omS0:3 15Di0:2*3 omS0:3 17XM0:2 mSo0:3*2 17XM0:2 omS0:3 15Di0:2*2 omS0:3 17XM0:2 mSo0:3 17XM0:2 mSo0:5 1wHo0:6 15Di0:5 omS0:6*3 17XM0:5 mSo0:6*2 17XM0:5 omS0:6 15Di0:5*2 omS0:6 17XM0:5 mSo0:6*3 17XM0:5 omS0:6 15Di0:5*2 SO1l:5|<-02>2<-01>,M3.5.0/-1,M10.5.0/0",
  "-67a,0 -69m,0 -5HW,0 -5HW,1 -69m,0 -4PG,1 -5HW,0|-1QIHUG:1 AEaC0:2 6TIhm:4 skSG:3 olZm:4 yL2G:2 1uQUyG:5 12v9m:2 r4+G:5 12v9m:2 r5sW:3 12v9m:4 r4+G:3 15Cpm:4 onKG:3 15Cpm:4 +JcG:3 mRvm:4 +JcG:3 12v9m:4 r4+G:3*2 15Cpm:4 onKG:3*3 15Cpm:4 r4+G:3 12v9m:4*2 kA0G:3 1ERRm:4 fYiG:3*5 1ERRm:4 hsMG:3 1ERRm:4 fYiG:3*4 1ERRm:4 hsMG:3 1ERRm:4 fYiG:3 1C7nm:2 hrU0:5 1ERRm:2 fYiG:5*3 1ERRm:2 hsMG:5 1ERRm:2 fYiG:5*4 1ERRm:2 hsMG:5 1ERRm:2 fYiG:5*5 1ERRm:2|CST6CDT,M3.2.0,M11.1.0",
  "-4gG,0 -4he,0 -4PG,0|-2MUDdm:1 YRJlO:2|EST5"]

end Autoresponder.Time.Table
