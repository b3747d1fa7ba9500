/-!
# Zone histories, part 6

Histories 379 to 446 of the zone table, each as text: the local time types (offset in
seconds east of UTC and a daylight-saving flag), the transitions (a UTC second, as a
difference from the one before after the first, and the type that starts there) and the
rule for times after the last transition. Offsets and seconds are written in base 64, with
the digits `0`-`9`, `A`-`Z`, `a`-`z`, `+` and `/`. A pair of transitions that comes several
times in a row is written once, its second item followed by `*` and the number of times.
-/

namespace Autoresponder.Time.Table

/-- Zone histories 379 to 446. -/
def part6 : List String := [
  "1GO,0 uG,0 uG,0 1mW,1 1mW,1 1mW,1 uG,0|-2Xmn2O:1 1hnKPu:4 2vHKm:2 mSo0:3 +Ik0:2 x/40:3 x/40:2 x/40:3 t2g0:2 16bMy0:5 x/40:6 x/40:5 +Ik0:6 x/40:5 x/40:6*5 x/40:5 +Ik0:6 x/40:5 x/40:6*5 +Ik0:5 15Di0:6 omS0:5*3 17XM0:6 mSo0:5*2 17XM0:6 omS0:5 15Di0:6*2 omS0:5 17XM0:6 mSo0:5*3 17XM0:6 omS0:5 15Di0:6*2 omS0:5 17XM0:6 mSo0:5*2 17XM0:6 omS0:5 15Di0:6*3 omS0:5 17XM0:6 mSo0:5*2 17XM0:6 omS0:5 15Di0:6*2 omS0:5 17XM0:6 mSo0:5*2 17XM0:6 omS0:5 15Di0:6*3 omS0:5 17XM0:6 mSo0:5*2 17XM0:6 omS0:5 15Di0:6*2 omS0:5 17XM0:6 mSo0:5*3 17XM0:6 omS0:5 15Di0:6*2|CET-1CEST,M3.5.0,M10.5.0/3",
  "1NS,0 1je,0 1mW,0 uG,0 1mW,1 2em,1 1mW,0 2em,1 2em,1 1mW,0|-2fIJ7S:1 S3HJq:2 1Q8sVu:3 mSo0:4 +Ik0:3 x/40:4 x/40:3 x/yG:2 /ySim:5 yL2G:2 zylm:5 w1OG:2 zylm:5 vjAW:2 +GzW:5 vk2m:6 x/40:7 x/40:6 x/40:7 +Ik0:6 x/40:7 x/40:6*5 x/40:7 +Ik0:6 xzJW:5 x+Bm:2 x/yG:5*4 x+Bm:2 +JcG:5 15Cpm:2 opz0:8 15Di0:9 omS0:8*2 17XM0:9 mSo0:8*2 17XM0:9 omS0:8 15Di0:9*2 omS0:8 17XM0:9 mSo0:8*3 17XM0:9 omS0:8 15Di0:9*2 omS0:8 17XM0:9 mSo0:8*2 17XM0:9 omS0:8 15Di0:9*3 omS0:8 17XM0:9 mSo0:8*2 17XM0:9 omS0:8 15Di0:9*2 omS0:8 17XM0:9 mSo0:8*2 17XM0:9 omS0:8 15Di0:9*3 omS0:8 17XM0:9 mSo0:8*2 17XM0:9 omS0:8 15Di0:9*2 omS0:8 17XM0:9 mSo0:8*3 17XM0:9 omS0:8 15Di0:9*2|EET-2EEST,M3.5.0/3,M10.5.0/4",
  "13i,0 uU,0 uG,0 1mW,1 1mW,1 uG,0|-2hAc1i:1 dVzFE:2 UoHZ+:3 jqwG:2 1tTsaW:4 vhQ0:5 x/40:4 x/40:5*3 x/40:4 +Ik0:5 x/40:4 x/40:5*5 x/40:4 +Ik0:5 x/40:4 x/40:5*5 +Ik0:4 15Di0:5 omS0:4*3 17XM0:5 mSo0:4*2 17XM0:5 omS0:4 15Di0:5*2 omS0:4 17XM0:5 mSo0:4*3 17XM0:5 omS0:4 15Di0:5*2 omS0:4 17XM0:5 mSo0:4*2 17XM0:5 omS0:4 15Di0:5*3 omS0:4 17XM0:5 mSo0:4*2 17XM0:5 omS0:4 15Di0:5*2 omS0:4 17XM0:5 mSo0:4*2 17XM0:5 omS0:4 15Di0:5*3 omS0:4 17XM0:5 mSo0:4*2 17XM0:5 omS0:4 15Di0:5*2 omS0:4 17XM0:5 mSo0:4*3 17XM0:5 omS0:4 15Di0:5*2|CET-1CEST,M3.5.0,M10.5.0/3",
  "1Sq,0 1Sq,0 1mW,1 uG,0 uG,0 1mW,0 2em,0 1mW,1 3X0,1 2em,0 3X0,1 2em,1 1mW,0 1mW,0 2em,1|-2fIJCq:1 17ec40:4 O6B4:2 omS0:3 1UvFW:1 3SqFS:5 aFKQK:6 25U5m:7 28BF0:3 mSo0:2 +Ik0:3 x/40:2 ufVG:6 14ijlm:8 yJHm:6 x/yG:8*2 yJHm:6 yL2G:8 y0qW:9 x/40:10 x/40:9*4 x/40:11 x/yG:12 x/40:11 +Ik0:12 x/40:11 x/40:12*5 +Ik0:11 15Di0:12 omS0:11*2 15EaG:13 omS0:14 17XM0:5 4Yii0:14 15Di0:13 omS0:14*2 17XM0:13 mSo0:14*3 17XM0:13 omS0:14 15Di0:13*2 omS0:14 17XM0:13 mSo0:14*2 17XM0:13 omS0:14 15Di0:13*3 omS0:14 17XM0:13 mSo0:14*2 17XM0:13 omS0:14 15Di0:13*2 omS0:14 17XM0:13 mSo0:14*2 17XM0:13 omS0:14 15Di0:13*3 omS0:14 17XM0:13 mSo0:14*2 17XM0:13 omS0:14 15Di0:13*2 omS0:14 17XM0:13 mSo0:14*3 17XM0:13 omS0:14 15Di0:13*2|EET-2EEST,M3.5.0/3,M10.5.0/4",
  "1AO,0 uG,0 1mW,1 uG,0 1mW,1|-1fLSkO:1 nmrC8:2 4USEW:1 mSo0:2 3z80:1 wRr1W:2 nmHm:1 15ZgG:2 olZm:1 16DsG:2 olZm:1 17YEG:2 mRvm:1 17D8G:2 mm/m:1*2 17D8G:2 olZm:1 13G0G:2 olZm:1 17YEG:2 olZm:1 10yMG:2 sihm:1 yL2G:2 y0qW:3 x/40:4 x/40:3*5 x/40:4 +Ik0:3 x/40:4 x/40:3*5 +Ik0:4 15Di0:3 omS0:4*3 17XM0:3 mSo0:4*2 17XM0:3 omS0:4 15Di0:3*2 omS0:4 17XM0:3 mSo0:4*3 17XM0:3 omS0:4 15Di0:3*2 omS0:4 17XM0:3 mSo0:4*2 17XM0:3 omS0:4 15Di0:3*3 omS0:4 17XM0:3 mSo0:4*2 17XM0:3 omS0:4 15Di0:3*2 omS0:4 17XM0:3 mSo0:4*2 17XM0:3 omS0:4 15Di0:3*3 omS0:4 17XM0:3 mSo0:4*2 17XM0:3 omS0:4 15Di0:3*2 omS0:4 17XM0:3 mSo0:4*3 17XM0:3 omS0:4 15Di0:3*2|CET-1CEST,M3.5.0,M10.5.0/3",
  "2rW,0 2em,0 4PG,1 3X0,0 3X0,0 4PG,1 3X0,1 2em,0 2em,1 1mW,0 3X0,1 3X0,0|-1U/yQ0:1 Kez7G:3 1VWuvm:2 yJHm:3 x/yG:2*2 yJHm:3 yL2G:2 y0qW:4 x/40:5 x/40:4*4 x/40:6 x/yG:7 x/40:6 +Ik0:7 x/40:8 x/yG:9 awW0:7 N3hm:6 x/40:7 x/40:6*3 x/40:7 +Ik0:6 15Di0:7 omS0:6*3 17XM0:7 mSo0:6*2 17XM0:7 omS0:6 15Di0:7*2 omS0:6 17XM0:7 mSo0:6*3 17XM0:7 omS0:6 15Di0:7*2 omS0:6 17XM0:7 mSo0:4 6lQrm:7 2glSG:4 f2EkF:4|<+04>-4",
  "Zi,0 1mW,1 uG,0 1mW,1 uG,0|-2EA/ji:2 1OGsLi:1 omS0:2 15Di0:1 omS0:2 18OPYG:3 x/40:4 x/40:3*3 +Ik0:4 x/40:3 x/40:4*5 x/40:3 +Ik0:4 x/40:3 x/40:4*5 +Ik0:3 15Di0:4 omS0:3*3 17XM0:4 mSo0:3*2 17XM0:4 omS0:3 15Di0:4*2 omS0:3 17XM0:4 mSo0:3*3 17XM0:4 omS0:3 15Di0:4*2 omS0:3 17XM0:4 mSo0:3*2 17XM0:4 omS0:3 15Di0:4*3 omS0:3 17XM0:4 mSo0:3*2 17XM0:4 omS0:3 15Di0:4*2 omS0:3 17XM0:4 mSo0:3*2 17XM0:4 omS0:3 15Di0:4*3 omS0:3 17XM0:4 mSo0:3*2 17XM0:4 omS0:3 15Di0:4*2 omS0:3 17XM0:4 mSo0:3*3 17XM0:4 omS0:3 15Di0:4*2|CET-1CEST,M3.5.0,M10.5.0/3",
  "zH,0 1mW,1 uG,0 1mW,1 uG,0 1mW,1 uG,0|-2GNQ3H:2 hQRWn:1 oSEG:2 10zEW:3 omS0:4 15Di0:3 omS0:4 2wuA0:3 r460:4 anHO0:3 4tTc0:4 mSo0:3 +Ik0:4 x/40:3 x/40:4 x/40:3 3Iy0:4 1uzQ0:3 w0W0:4 xf+0:3 x/40:4 10cO0:3 tNm0:4 xGv7W:1 vgXm:2 y1im:5 x/40:6 x/40:5*3 +Ik0:6 x/40:5 x/40:6*5 x/40:5 +Ik0:6 x/40:5 x/40:6*5 +Ik0:5 15Di0:6 omS0:5*3 17XM0:6 mSo0:5*2 17XM0:6 omS0:5 15Di0:6*2 omS0:5 17XM0:6 mSo0:5*3 17XM0:6 omS0:5 15Di0:6*2 omS0:5 17XM0:6 mSo0:5*2 17XM0:6 omS0:5 15Di0:6*3 omS0:5 17XM0:6 mSo0:5*2 17XM0:6 omS0:5 15Di0:6*2 omS0:5 17XM0:6 mSo0:5*2 17XM0:6 omS0:5 15Di0:6*3 omS0:5 17XM0:6 mSo0:5*2 17XM0:6 omS0:5 15Di0:6*2 omS0:5 17XM0:6 mSo0:5*3 17XM0:6 omS0:5 15Di0:6*2|CET-1CEST,M3.5.0,M10.5.0/3",
  "1Uy,0 1Em,0 1Pe,0 uG,0 1mW,0 2em,0 uG,0 1mW,1 1mW,1 3X0,1 2em,0 3X0,1 2em,1 1mW,0 1mW,1 uG,0 1mW,0 2em,1|-2fIJEy:1 15c5CC:2 5DYj8:3 1Q+PO:4 TKTm:3 bHbSG:5 1h5jW:8 2ZY10:6 mSo0:7 +Ik0:6 x/40:7 dWdG:5 14zsdm:9 yJHm:5 x/yG:9*2 yJHm:5 yL2G:9 y0qW:10 x/40:11 x/40:10*4 x/40:12 x/yG:13 x/40:12 +Ik0:13 x/40:12 x/40:13*5 +Ik0:12 15Di0:13 omS0:12 15Di0:13 onKG:14 15Di0:15 omS0:14 17XM0:16 6Qgq0:17 15Di0:16 omS0:17 17XM0:16 mSo0:17*3 17XM0:16 omS0:17 15Di0:16*2 omS0:17 17XM0:16 mSo0:17*2 17XM0:16 omS0:17 15Di0:16*3 omS0:17 17XM0:16 mSo0:17*2 17XM0:16 omS0:17 15Di0:16*2 omS0:17 17XM0:16 mSo0:17*2 17XM0:16 omS0:17 15Di0:16*3 omS0:17 17XM0:16 mSo0:17*2 17XM0:16 omS0:17 15Di0:16*2 omS0:17 17XM0:16 mSo0:17*3 17XM0:16 omS0:17 15Di0:16*2|EET-2EEST,M3.5.0/3,M10.5.0/4",
  "2ca,0 2em,0 3X0,0 4PG,1 3X0,0 4PG,1 3X0,1 2em,0 3X0,0 2em,0|-1U2haa:1 JhiHq:2 1VWuvm:3 yJHm:2 x/yG:3*2 yJHm:2 yL2G:3 y0qW:4 x/40:5 x/40:4*3 x/40:6 x/yG:7 x/40:6 x/40:7 x/40:6 +Ik0:7 x/40:4 1tzFm:6 x/yG:7 x/40:6 x/40:7*3 +Ik0:6 15Di0:7 omS0:6*3 17XM0:7 mSo0:6*2 17XM0:7 omS0:6 15Di0:7*2 omS0:6 17XM0:7 mSo0:6*3 17XM0:7 omS0:6 15Di0:7*2 omS0:6 17XM0:7 mSo0:8 6lQrm:7 7YD2G:4 44iHm:7|MSK-3",
  "1Em,0 1Em,0 1mW,1 uG,0 1mW,1 uG,0 2em,1 1mW,0 1mW,0 1mW,1 uG,0|-2fII+m:1 12yLg0:3 1O+oG:2 oSEG:3 10zEW:4 omS0:5 15Di0:4 omS0:8 15Xvm:6 omS0:7 55xzW:3 X+M6m:2 4S6q0:5 mSo0:4 +Ik0:5 x/40:4 yeNm:3 14DXm:2 zIZm:3 s4GG:4 w2GW:5 14uc0:4 omS0:5 10cO0:4 tNm0:5 +Ik0:4 vhQ0:5 EQrdm:4 dEA0:5 x/40:4 x/40:5 1Gl+0:4 fXq0:5 x/40:4 x/40:5 1ESK0:4 fXq0:5*3 1Gl+0:4 dEA0:5 NYZY0:4 vhQ0:5 +Ik0:4 x/40:5 x/40:4 x/40:5 +Ik0:4 vhQ0:5 x/40:4 x/40:5*3 x/40:4 +Ik0:5 x/40:4 x/40:5*3 x/yG:9 x/40:10 x/40:9*2 +Ik0:10 x/40:9 x/40:10*5 +Ik0:9 15Di0:10 omS0:9*3 17XM0:10 mSo0:9*2 17XM0:10 omS0:9 15Di0:10*2 omS0:9 17XM0:10 mSo0:9*3 17XM0:10 omS0:9 15Di0:10*2 omS0:9 17XM0:10 mSo0:9*2 17XM0:10 omS0:9 15Di0:10*3 omS0:9 17XM0:10 mSo0:9*2 17XM0:10 omS0:9 15Di0:10*2 omS0:9 17XM0:10 mSo0:9*2 17XM0:10 omS0:9 15Di0:10*3 omS0:9 17XM0:10 mSo0:9*2 17XM0:10 omS0:9 15Di0:10*2 omS0:9 17XM0:10 mSo0:9*3 17XM0:10 omS0:9 15Di0:10*2|CET-1CEST,M3.5.0,M10.5.0/3",
  "xu,0 uG,0 uG,0 1mW,1 1mW,1 1mW,1 uG,0|-2Xmmju:1 1hnK5O:4 2vHKm:2 mSo0:3 +Ik0:2 x/40:3 x/40:2 x/40:3 t2g0:2 16bMy0:5 x/40:6 x/40:5 +Ik0:6 x/40:5 x/40:6*5 x/40:5 +Ik0:6 x/40:5 x/40:6*5 +Ik0:5 15Di0:6 omS0:5*3 17XM0:6 mSo0:5*2 17XM0:6 omS0:5 15Di0:6*2 omS0:5 17XM0:6 mSo0:5*3 17XM0:6 omS0:5 15Di0:6*2 omS0:5 17XM0:6 mSo0:5*2 17XM0:6 omS0:5 15Di0:6*3 omS0:5 17XM0:6 mSo0:5*2 17XM0:6 omS0:5 15Di0:6*2 omS0:5 17XM0:6 mSo0:5*2 17XM0:6 omS0:5 15Di0:6*3 omS0:5 17XM0:6 mSo0:5*2 17XM0:6 omS0:5 15Di0:6*2 omS0:5 17XM0:6 mSo0:5*3 17XM0:6 omS0:5 15Di0:6*2|CET-1CEST,M3.5.0,M10.5.0/3",
  "0,0||<-00>0",
  "-8oW,0||HST10",
  "2oC,0 2em,0 3X0,1 2em,0|-1k338C:1 1GF/BC:2 T/Y0:3|EAT-3",
  "4Fa,0 4PG,0 5HW,0|-1sWGXa:1 2dP+OK:2 1F6I9F:2|<+06>-6",
  "6CS,0 69m,0|-2CwLOS:1 4CwLOR:1|<+07>-7",
  "5hS,0 5je,0|-23gjbS:1 43gjbR:1|<+0630>-6:30",
  "2YG,0 2em,0|-1k32uG:1|EAT-3",
  "0,0 4PG,0|-bdfs0:1 2bdfr/:1|<+05>-5",
  "3Fy,0 3X0,0|-1sWFXy:1 3sWFXx:1|<+04>-4",
  "4Je,0 4Je,0 4PG,0|-2fIM3e:1 2MUII0:2 2Iq3nd:2|<+05>-5",
  "3Ne,0 4PG,1 3X0,0|-1sWFfe:2 2EXkUe:1 rOJm:2 mA2Im:1 olZm:2 sCN0l:2|<+04>-4",
  "2fe,0 2em,0|-1k32/e:1|EAT-3",
  "3G0,0 3X0,0|-1kCyQ0:1 3kCyP/:1|<+04>-4",
  "uG,0 1mW,1 1mW,1 uG,0|-1ay+YW:1 oSEG:0 10zEW:2 omS0:3 15Di0:2 omS0:3 eXDe0:2 4tTc0:3 mSo0:2 +Ik0:3 x/40:2 x/40:3 x/40:2 t2g0:3 xLYC0:2 vhQ0:3 +Ik0:2 x/40:3 x/40:2 x/40:3 +Ik0:2 vhQ0:3 x/40:2 x/40:3*3 x/40:2 +Ik0:3 x/40:2 x/40:3*5 x/40:2 +Ik0:3 x/40:2 x/40:3*5 +Ik0:2 15Di0:3 omS0:2*3 17XM0:3 mSo0:2*2 17XM0:3 omS0:2 15Di0:3*2 omS0:2 17XM0:3 mSo0:2*3 17XM0:3 omS0:2 15Di0:3*2 omS0:2 17XM0:3 mSo0:2*2 17XM0:3 omS0:2 15Di0:3*3 omS0:2 17XM0:3 mSo0:2*2 17XM0:3 omS0:2 15Di0:3*2 omS0:2 17XM0:3 mSo0:2*2 17XM0:3 omS0:2 15Di0:3*3 omS0:2 17XM0:3 mSo0:2*2 17XM0:3 omS0:2 15Di0:3*2 omS0:2 17XM0:3 mSo0:2*3 17XM0:3 omS0:2 15Di0:3*2|MET-1MEST,M3.5.0,M10.5.0/3",
  "-69m,0||MST7",
  "-69m,0 -5HW,1 -5HW,1 -5HW,1 -69m,0|-1XMSLm:1 15Cpm:0 onKG:1 15Cpm:0 fxYCG:2 6ckVW:3 FIEG:0 ebrqG:1 x+Bm:0 x/yG:1*4 +Hrm:0 x/yG:1 x+Bm:0*2 N5SG:1 1Wuhm:0 dF2G:1 1Gl5m:0 x/yG:1 +Hrm:0 viIG:1 +Hrm:0 x/yG:1 x+Bm:0*4 x/yG:1 +Hrm:0 viIG:1 +Hrm:0 x/yG:1 x+Bm:0*3 r4+G:1 12v9m:0 r4+G:1 15Cpm:0 onKG:1*2 15Cpm:0 r4+G:1 12v9m:0*2 r4+G:1 15Cpm:0 onKG:1*2 15Cpm:0 r4+G:1 12v9m:0*3 r4+G:1 15Cpm:0 onKG:1*2 15Cpm:0 r4+G:1 12v9m:0*2 r4+G:1 15Cpm:0 onKG:1*2 15Cpm:0 hsMG:1 1ERRm:0 fYiG:1*2 1ERRm:0 hsMG:1 1ERRm:0 fYiG:1*5 1ERRm:0 hsMG:1 1ERRm:0 fYiG:1*4 1ERRm:0 hsMG:1 1ERRm:0 fYiG:1*5 1ERRm:0 hsMG:1 1ERRm:0 fYiG:1*4 1ERRm:0 hsMG:1 1ERRm:0 fYiG:1*5 1ERRm:0|MST7MDT,M3.2.0,M11.1.0",
  "-720,0 -69m,1 -69m,1 -69m,1 -720,0|-1XMRTW:1 15Cpm:0 onKG:1 15Cpm:0 fxYCG:2 6cjdG:3 FJ6W:0 ebrqG:1 x+Bm:0 x/yG:1*4 +Hrm:0 x/yG:1 x+Bm:0*2 N5SG:1 1Wuhm:0 dF2G:1 1Gl5m:0 x/yG:1 +Hrm:0 viIG:1 +Hrm:0 x/yG:1 x+Bm:0*4 x/yG:1 +Hrm:0 viIG:1 +Hrm:0 x/yG:1 x+Bm:0*3 r4+G:1 12v9m:0 r4+G:1 15Cpm:0 onKG:1*2 15Cpm:0 r4+G:1 12v9m:0*2 r4+G:1 15Cpm:0 onKG:1*2 15Cpm:0 r4+G:1 12v9m:0*3 r4+G:1 15Cpm:0 onKG:1*2 15Cpm:0 r4+G:1 12v9m:0*2 r4+G:1 15Cpm:0 onKG:1*2 15Cpm:0 hsMG:1 1ERRm:0 fYiG:1*2 1ERRm:0 hsMG:1 1ERRm:0 fYiG:1*5 1ERRm:0 hsMG:1 1ERRm:0 fYiG:1*4 1ERRm:0 hsMG:1 1ERRm:0 fYiG:1*5 1ERRm:0 hsMG:1 1ERRm:0 fYiG:1*4 1ERRm:0 hsMG:1 1ERRm:0 fYiG:1*5 1ERRm:0|PST8PDT,M3.2.0,M11.1.0",
  "B20,0 -A40,0 -A6u,0 -8oW,1 -9gm,0 BRG,0 CJW,1|-2HmZS0:1 Yo3C0:2 19N0Wu:4 1oFIDu:3 +0Gm:4 vhQ0:3 Vwb0:6 UO90:5 x/40:6 +Ik0:5 vhQ0:6*5 +Ik0:5 x/40:6 +Ik0:5 vhQ0:6*2 +Ik0:5 VbuiV:5|<+13>-13",
  "AFO,0 A/8,1 A6u,0 AZ0,1 BRG,1 AZ0,0 AZ0,0|-2+IBDO:2 1k/MP0:1 dDHm:2 19ruG:3 ol/u:2 15E88:3*3 r3fu:2 12wU8:3*2 12vbu:2 omu8:3 15DFu:2*4 omu8:3 17Wvu:2 mTE8:3 17Wvu:2 omu8:3 9unpO:6 sFcEW:4 awW0:5 1Gl+0:4 hrU0:5 1ESK0:4 fXq0:5*5 1ESK0:4 hrU0:5 1ESK0:4 fXq0:5*5 1ESK0:4 hrU0:5 1ESK0:4 fXq0:5 17XM0:4 r460:5 12w20:4*3 tNm0:5 10cO0:4*3 tNm0:5 12w20:4 r460:5*2 12w20:4 tNm0:5 10cO0:4*2 tNm0:5 12w20:4 r460:5*2 12w20:4 tNm0:5 10cO0:4*4 +Ik0:5 vhQ0:4*4 +Ik0:5 x/40:4 +Ik0:5 vhQ0:4*5 +Ik0:5 x/40:4 +Ik0:5 vhQ0:4*5 10cO0:5 vhQ0:4 +Ik0:5*5 x/40:4 +Ik0:5 vhQ0:4*5 +Ik0:5 x/40:4 +Ik0:5 vhQ0:4*2|NZST-12NZDT,M9.5.0,M4.1.0/3",
  "97O,0 8dm,0 8oW,0 7wG,0 9gm,0|-2fIQtO:1 SDr9e:2 1PLP7G:3 5w3QG:2 22SsgG:4 hOIX/:4|<+11>-11",
  "Aly,0 An4,0 C5S,1 BDC,0 BDC,0|-2+IBjy:1 2H8r8u:4 sFcSa:2 awW0:3 1Gl+0:2 hrU0:3 1ESK0:2 fXq0:3*5 1ESK0:2 hrU0:3 1ESK0:2 fXq0:3*5 1ESK0:2 hrU0:3 1ESK0:2 fXq0:3 17XM0:2 r460:3 12w20:2*3 tNm0:3 10cO0:2*3 tNm0:3 12w20:2 r460:3*2 12w20:2 tNm0:3 10cO0:2*2 tNm0:3 12w20:2 r460:3*2 12w20:2 tNm0:3 10cO0:2*4 +Ik0:3 vhQ0:2*4 +Ik0:3 x/40:2 +Ik0:3 vhQ0:2*5 +Ik0:3 x/40:2 +Ik0:3 vhQ0:2*5 10cO0:3 vhQ0:2 +Ik0:3*5 x/40:2 +Ik0:3 vhQ0:2*5 +Ik0:3 x/40:2 +Ik0:3 vhQ0:2*2 bmKV:2|<+1245>-12:45<+1345>,M9.5.0/2:45,M4.1.0/3:45",
  "-CCq,0 8vC,0 8oW,0 7wG,0 8oW,0|-3h7a3C:1 1fL6U0:2 Pstqi:3 8A5OG:2 fi11m:3 89mIG:2 2jxl4F:2|<+10>-10",
  "-6Q8,0 -6Q8,0 -5HW,1 -69m,0 -69m,0 -5HW,0 -4PG,1|-2MUBtu:1 1GF/w0:4 142Vku:2 mRvm:3 1ETCG:2 fWxm:3 10dGG:2 olZm:3 15EaG:2 olZm:3 17YEG:2 mRvm:3 12wwG:2 r3Dm:3 17YEG:2 mRvm:3 17YEG:2 olZm:3 15EaG:2*2 olZm:3 17YEG:2 mRvm:3*2 17YEG:2 olZm:3 15EaG:2 olZm:5 15EaG:6*2 olZm:5 17YEG:6 mRvm:5*2 17YEG:6 x+Bm:5 x/yG:6 olZm:5 15EaG:6 olZm:5 17YEG:6 mRvm:5 +JcG:6 vgXm:5 17YEG:6 olZm:5 15EaG:6*3 olZm:5 17YEG:6 mRvm:5 17YEG:6 tMtm:5 10dGG:6 olZm:5 10dGG:6 +Hrm:5 +JcG:6 olZm:5 17YEG:6 mRvm:5*3 17YEG:6 olZm:5 15EaG:6*2 olZm:5 17YEG:6 mRvm:5 17YEG:6 tMtm:5 10dGG:6 olZm:5 15EaG:6 vgXm:5 +JcG:6 15Cpm:5 YdkG:6 1J2lm:5 fYiG:6 1ERRm:5 hsMG:6 1C7nm:5 hsMG:6 3B0tm:5 U0QG:6 1Pzjm:5*2 U0QG:6 1ERRm:5 onKG:6 15Cpm:5*3 r4+G:6 12v9m:5 onKG:6 17WTm:5 onKG:6 15Cpm:5*4 onKG:6 17WTm:5 mTgG:6 17WTm:5 onKG:6 15Cpm:5*4 onKG:6 17WTm:5 mTgG:6 17WTm:5 onKG:6 15Cpm:5 onKG:6 iU+/:6|<-06>6<-05>,M9.1.6/22,M4.1.6/22",
  "9tC,0 AZ0,1 9gm,0 AZ0,1 9gm,0|-1j2ZrC:4 1qWzQC:1 WJC0:2 Hs2kG:3 x+Bm:4 x/yG:3 x+Bm:4 +JcG:3 vgXm:4 +JcG:3 x+Bm:4 x/yG:3*4 x+Bm:4 +JcG:3 dDHm:4 1P/UG:3 T+fm:4 1Kdio/:4|<+11>-11",
  "-A28,0 -9gm,0 BRG,0|-21oAfu:1 3GnaGe:2 n0cPF:2|<+13>-13",
  "AV0,0 BRG,1 AZ0,0|-1bx4v0:2 2S9sOW:1 dEA0:2 1J3e0:1 awW0:2 IML20:1 dEA0:2 15Di0:1 hrU0:2 1C8g0:1 T/Y0:2 1P+c0:1 T/Y0:2 1SIG0:1 Rg/m:2 1UcoG:1 POE0:2 1Ubw0:1 POE0:2 1Wva0:1 N4a0:2*3 1ZDE0:1 Kmw0:2 1n3A0:1 9Ee0:2 V/GwV:2|<+12>-12",
  "AW4,0 AZ0,0|-21oVC4:1 41oVC3:1|<+12>-12",
  "-5G0,0 -4PG,0 -4PG,1 -5HW,0|-19MxE0:1 1dT7VG:3 C/aQG:2 Mkbm:3 1KZWkl:3|<-06>6",
  "-7w4,0 -7wG,0|-1hhxVy:1 3hhxVx:1|<-09>9",
  "9Nq,0 9gm,0|-1hiCnq:1 3hiCnp:1|<+11>-11",
  "-CdC,0 8Uq,0 8oW,0 7wG,0 9gm,1 8oW,0|-3h7Zeq:1 1fL6U0:2 1D0MYK:3 4zlGG:2 S2JGG:4 2/phm:2 CP0SG:4 2f2UC:2 mVPq:4 N3hm:2 1ETCG:4 hqbm:2 1C9YG:4 hqbm:2 4IZ+G:4 N3hm:2 4ExyG:4 S/Oi:2 1GmrK:4 fWxm:2 htRhm:5|ChST-10",
  "-9F+,0 -9Ee,0 -8MO,1 -8MO,1 -8MO,1 -8oW,0|-2B7uz2:1 169DAA:2 72uG:1 GPynm:3 6chQe:4 FLJ8:1 3B2eG:5|HST10",
  "0,0 -AZ0,0 -9gm,0 BRG,0|-yqoI0:1 1FAIb0:2 ShpJm:3 1G+iPF:3|<+13>-13",
  "-9E0,0 -9O0,0 -8oW,0 CJW,0|-21oBU0:1 2K7gc0:2 ShpcW:3 1G+jHV:3|<+14>-14",
  "-BYq,0 9ZC,0 9gm,0 7wG,0 8oW,0 AZ0,0 9gm,0|-3h7ajC:1 1fL6U0:2 PstcS:3 8A6GW:2 XiplW:4 7/DIG:3 89mIG:2 jTGnW:5 t1Klm:2 19T9Y/:2|<+11>-11",
  "9pW,0 9gm,0 8oW,0 7wG,0 -AZ0,0 AZ0,0|-21oUVW:1 13jnsm:2 7/DIG:3 5N7UG:1 mFvbW:4 ix/Bm:5 1JYV6/:5|<+12>-12",
  "A20,0 9gm,0 7wG,0 8oW,0 AZ0,0|-21oUk0:1 Psu5G:2 8A6GW:1 XiplW:3 7/DIG:2 5KpqG:1 mIDFW:4 20UUIl:4|<+12>-12",
  "-8B8,0 -8MO,0|-1hhxEu:1 3hhxEt:1|<-0930>9:30",
  "-AP8,0 -9gm,0 -8oW,1 -9gm,0|-21oAIu:1 1eFYze:2 T+fm:3|SST11",
  "9ny,0 A6u,0 7wG,0 AZ0,0|-1S6DJy:1 egRx4:2 5iZue:1 +te3u:3 1ktbSN:3|<+12>-12",
  "-9zC,0 -9zW,0 -9gm,0|-WNfMq:1 M1KuK:2 2AMKUV:2|<-11>11",
  "9ru,0 9s0,0 A6u,0 A/8,1 A6u,0 9gm,0 AZ0,1|-21oUXu:1 1U2+3u:2 ipT7e:3 fXq0:4 1CMVy0:5 7YCc8:6 x/40:5 x/40:6*4 +Ik0:5 x/40:6 x/40:5*5 +Ik0:6 x/40:5 x/40:6*5 x/40:5 +Ik0:6 x/40:5 x/40:6*2 ZRoF:6|<+11>-11<+12>,M10.1.0,M4.1.0/3",
  "9mC,0 AZ0,1 9gm,0 AZ0,1 9gm,0|-1j2ZkC:2 1xyFNS:1 S05m:2 1R+2G:1 SLBm:2 XQ5om:3 T/Y0:4 1CvxkF:4|<+11>-11",
  "B5u,0 -A08,0 -9gm,0|-2HmZVu:1 Yo3C0:2|SST11",
  "-DDi,0 7uK,0 7wG,0|-3h7Z2K:1 1fL6U0:2 41oSaJ:2|<+09>-9",
  "-7dq,0 -7U8,0 -720,0|-21oD4C:1 2t3HCK:2 1Akxtt:2|<-08>8",
  "-Bqi,0 9HK,0 9gm,0 7wG,0 8oW,0 9gm,0|-3h7aRK:1 1fL6U0:2 PstKa:3 8A6GW:2 XiplW:4 7/DIG:3 89mIG:2 2jxl4F:2|<+11>-11",
  "8du,0 8dm,0 8oW,0|-2fIQNu:1 SDqg8:2 4D4bjl:2|<+10>-10",
  "Bku,0 -9N8,0 -9Ee,0 -8oW,0 -8MO,1|-23ioCu:1 1ZL8G0:2 n2hfW:4 avdm:3 1ESm8:4 fXNu:3*2 1ESm8:4 hr1u:3 1ESm8:4 fXNu:3*5 1ESm8:4 hr1u:3 1ESm8:4 fXNu:3*3 1OBptd:3|<-10>10",
  "-CZS,0 8Ya,0 7wG,0 9gm,1 8oW,0 8oW,0|-3h7Zia:1 1fL6U0:2 1HsroK:4 S9ZKG:3 2/phm:4 CP0SG:3 2f2UC:4 mVPq:3 N3hm:4 1ETCG:3 hqbm:4 1C9YG:3 hqbm:4 4IZ+G:3 N3hm:4 4ExyG:3 S/Oi:4 1GmrK:3 fWxm:4 htRhm:5|ChST-10",
  "-8mu,0 -8oW,0|-1hhwf8:1 3hhwf7:1|<-10>10",
  "A8q,0 AZ0,0|-21oUqq:1 41oUqp:1|<+12>-12",
  "Ar0,0 Arm,0 BRG,0 CJW,1 BRG,0 CJW,1|-jkcF0:1 Sp4FG:2 18wMV0:3 s3O0:4 1C8g0:5 Rg/m:2 1SJ8G:5 Rg/m:2 RopsG:5 N4a0:2 dXTyl:2|<+13>-13",
  "9mq,0 AZ0,0|-21oUSq:1 41oUSp:1|<+12>-12",
  "AnO,0 AZ0,0|-21oVTO:1 41oVTN:1|<+12>-12",
  "0,0 uG,1 uG,1 0,0|Df6EG:1 vhQ0:0 +Ik0:1 x/40:0 x/40:1 x/40:0 +Ik0:1 vhQ0:0 x/40:1 x/40:0*3 x/40:1 +Ik0:0 x/40:1 x/40:0*5 x/40:1 +Ik0:0 x/40:1 x/40:0*5 +Ik0:1 15Di0:0 omS0:1*3 17XM0:0 mSo0:1*2 17XM0:0 omS0:1 15Di0:0*2 omS0:1 17XM0:0 mSo0:1*3 17XM0:0 omS0:1 15Di0:0*2 omS0:1 17XM0:0 mSo0:1*2 17XM0:0 omS0:1 15Di0:0*3 omS0:1 17XM0:0 mSo0:1*2 17XM0:0 omS0:1 15Di0:0*2 omS0:1 17XM0:0 mSo0:1*2 17XM0:0 omS0:1 15Di0:0*3 omS0:1 17XM0:0 mSo0:1*2 17XM0:0 omS0:1 15Di0:0*2 omS0:1 17XM0:0 mSo0:1*3 17XM0:0 omS0:1 15Di0:0*2|WET0WEST,M3.5.0/1,M10.5.0"]

end Autoresponder.Time.Table
