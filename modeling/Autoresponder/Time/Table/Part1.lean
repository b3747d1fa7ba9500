/-!
# Zone histories, part 1

Histories 0 to 107 of the zone table, each as text: the local time types (offset in
seconds east of UTC and a daylight-saving flag), the transitions (a UTC second, as a
difference from the one before after the first, and the type that starts there) and the
rule for times after the last transition. Offsets and seconds are written in base 64, with
the digits `0`-`9`, `A`-`Z`, `a`-`z`, `+` and `/`. A pair of transitions that comes several
times in a row is written once, its second item followed by `*` and the number of times.
-/

namespace Autoresponder.Time.Table

/-- Zone histories 0 to 107. -/
def part1 : List String := [
  "-F8,0 0,0|-1j6Msu:1|GMT0",
  "-q,0 Im,1 0,0 S8,0 S8,1 0,0|-1buclC:2 7eo1C:1 CZ1m:2 1GRAm:1 eD9G:2 1G64m:1*3 eD9G:2 1GRAm:1 eD9G:2 1G64m:1*3 eD9G:2 1GRAm:1 eD9G:2 1G64m:1*3 eD9G:2 1GRAm:1 eD9G:2 1G64m:1*3 eD9G:2 1GRAm:1 eD9G:2 1G64m:1*3 eD9G:2 duem:1 1GlhG:2 dZYm:1 1GlhG:2 CW6G:3 7MfRu:2 8m0Ue:4 eC/u:2 1G6E8:4 eC/u:2 1GRK8:4 eC/u:2 1G6E8:4*3 eC/u:2|GMT0",
  "2H8,0 2He,0 2em,0|-2y5+P8:1 1ynzZW:2|EAT-3",
  "BS,0 8n,0 uG,1 0,0 0,0 1mW,1 uG,0 uG,1|-2KDcJS:1 bbhKh:4 9voYX:2 ZxE0:3 vMK0:2 10xU0:3 oRM0:2 15Yo0:3 m7i0:2 17sS0:3 hWO0:2 1J3e0:3 kpK0:2 WeI0:3 YHm00:2 MRGG:4 WKyW:6 7k2fm:5 zylm:6 w1OG:5 t0vW:6 1/EC0:4 HWykG:6 DZTtm:4 F7140:2 omS0:3 AZ0uG:7 tMtm:6 onKG:5 x/yG:6 23UfW:4 x/yG:7 +JcG:4 x+Bm:6|CET-1",
  "2Hq,0 2Hq,0 2He,0 2em,0|-2y5+Pq:1 bdfs0:2 1NAJkC:3|EAT-3",
  "-U0,0 0,0 -uG,0 0,0|-1j6Me0:1 fh2A0:2 nViwG:1|GMT0",
  "15i,0 uG,0|-1j6OBi:1|WAT-1",
  "-+S,0 -+S,0 -uG,0 0,0|-1j6M7a:1 dzyc0:2 GdwXq:3|GMT0",
  "-wS,0 -uG,0 0,0|-1j6MDm:1 1sWCI0:2|GMT0",
  "23G,0 24M,0 24C,0 1mW,0|-1jxTFG:1 5XKUw:2 KidoA:3|CAT-2",
  "vK,0 uG,0|-1j6N/K:1|WAT-1",
  "1k8,0 1mW,0|-2MUK08:1|CAT-2",
  "1rL,0 2em,1 1mW,0 2em,1|-22Gh9L:2 1ArcSr:1 PiRm:2 10dGG:1 olZm:2 10yMG:1 14tjm:2 pRWG:1 16XBm:2 o78G:1 16XBm:2 skSG:1 11anm:2 LgxOG:1 lSdm:2 15umG:1 oQTm:2 15veW:1 o78G:2 16XBm:1 o78G:2 16C5m:1*3 o78G:2 16XBm:1 o78G:2 16C5m:1*2 oSEG:2 15s/m:1 oSEG:2 16C5m:1 oSEG:2 15s/m:1*3 oSEG:2 16C5m:1 oSEG:2 15s/m:1*3 oSEG:2 16C5m:1 oSEG:2 15s/m:1*3 oSEG:2 16C5m:1 oSEG:2 15s/m:1 oSEG:2 1Xtzm:1 MRGG:2 1Tblm:1 QjUG:2 16C5m:1 oSEG:2 15s/m:1*3 oSEG:2 16C5m:1 oSEG:2 17WTm:1 momG:2 15s/m:1 oSEG:2*2 16C5m:1 oSEG:2 15s/m:1*2 oSEG:2 14srW:3 olZm:2 15EaG:3*3 olZm:2 17YEG:3 olZm:2 15EaG:3*4 olZm:2 17YEG:3 olZm:2 15EaG:3*2 mRvm:2 17YEG:3 hqbm:2 1C9YG:3 fWxm:2 1ETCG:3 dDHm:2 1J4WG:3 Xxnm:2 9viG:1 6w5m:2 6q3wG:1 Dr3m:2 BZAG:1 ISNm:2 G9cuG:1 x+Bm:2 x/yG:1 +Hrm:2 viIG:1*2 +Hrm:2 x/yG:1 x+Bm:2*3 x/yG:1 +Hrm:2 viIG:1 +Hrm:2 x/yG:1 x+Bm:2*4 x/yG:1 +Hrm:2 viIG:1 +Hrm:2|EET-2EEST,M4.5.5/0,M10.5.4/24",
  "-SS,0 uG,1 0,0 uG,0 0,0|-1fhWPa:2 mhHha:1 MPVm:2 WK4G:1 AnqLm:2 8b74G:1 k8Fm:2 VDqfG:1 dNqm:2 Cg9KG:1 Mkbm:2 38PuG:1 UJlm:2 1P/UG:1 nRBm:2 1H5yG:1 L57m:2 Aa0AG:3 3OCdm:2 gANQG:1 UJlm:2 1P/UG:1 Qhjm:2 1JkiG:1 WIJm:2 1ETCG:1 dDHm:2 1Q1Em:1 R1i0:2 ADw0:1 DWs0:2 15Di0:1 N4a0:2 BDC0:1 PjK0:2 omS0:1 TgS0:2 BYI0:1 S0+0:2 omS0:1 POE0:2 BYI0:1 WJC0:2 omS0:1 N4a0:2 BYI0:1 awW0:2 mSo0:1 ITG0:2 Dry0:1 dEA0:2 mSo0:1 G9c0:2 BYI0:1 1g8C0:2 BYI0:1 1dqY0:2 Dry0:1 1dqY0:2 BYI0:1 1dqY0:2 Dry0:1 1dqY0:2 BYI0:1 1g8C0:2 BYI0:1 1dqY0:2 Dry0:1 1dqY0:2 BYI0:1 1g8C0:2 BYI0:1 1dqY0:2 Dry0:1 1dqY0:2 BYI0:1 1dqY0:2 Dry0:1 1dqY0:2 BYI0:1 1g8C0:2 BYI0:1 1dqY0:2 Dry0:1 1dqY0:2 BYI0:1 1dqY0:2 Dry0:1*2 1dqY0:2 BYI0:1 1dqY0:2 Dry0:1 1dqY0:2 BYI0:1 1g8C0:2 BYI0:1 1dqY0:2 Dry0:1 1dqY0:2 BYI0:1 1dqY0:2 Dry0:1*2 1dqY0:2 BYI0:1 1dqY0:2 Dry0:1 1dqY0:2 BYI0:1 1g8C0:2 BYI0:1 1dqY0:2 Dry0:1 1dqY0:2 BYI0:1 1dqY0:2 Dry0:1*2 1dqY0:2 BYI0:1 1dqY0:2 Dry0:1 1dqY0:2 BYI0:1 1g8C0:2 BYI0:1 1dqY0:2 Dry0:1 1dqY0:2 BYI0:1 1dqY0:2 Dry0:1*2 1dqY0:2 BYI0:1 1dqY0:2 Dry0:1 1dqY0:2 BYI0:1 1g8C0:2 BYI0:1 1dqY0:2 Dry0:1 1dqY0:2 BYI0:1 1dqY0:2 Dry0:1*2 1dqY0:2 BYI0:1 1dqY0:2 Dry0:1 1dqY0:2 BYI0:1 1g8C0:2 BYI0:1 1dqY0:2 Dry0:1 1dqY0:2 BYI0:1 1dqY0:2 Dry0:1*2 1dqY0:2 BYI0:1 1dqY0:2 Dry0:1 1dqY0:2 BYI0:1 1g8C0:2 BYI0:1 1dqY0:2 Dry0:1 1dqY0:2 BYI0:1 1dqY0:2 Dry0:1 1dqY0:2 BYI0:1 1g8C0:2 BYI0:1 1dqY0:2 Dry0:1 1dqY0:2 BYI0:1 1g8C0:2 BYI0:1 1dqY0:2 Dry0:1|<+00>0<+01>,0/0,J365/25",
  "-Jy,0 0,0 uG,1 0,0 0,0 uG,0 1mW,1 uG,0|-21oKi0:1 Wdy1m:2 olZm:3 AP84G:2 uNwG:4 2uZdm:2 tOeG:4 +Hrm:2 viIG:4 10cO0:2 vhQ0:4 18jK70:2 dNqm:3 Cg9KG:2 Mkbm:3 38PuG:2 UJlm:3 1P/UG:2 nRBm:3 1H5yG:2 L57m:3 Aa0AG:5 3rEeG:6 x/40:7 x/40:6*4 +Ik0:7 x/40:6 x/40:7*5 +Ik0:6 15Di0:7 omS0:6*3 17XM0:7 mSo0:6*2 17XM0:7 omS0:6 15Di0:7*2 omS0:6 17XM0:7 mSo0:6*3 17XM0:7 omS0:6 15Di0:7*2 omS0:6 17XM0:7 mSo0:6*2 17XM0:7 omS0:6 15Di0:7*3 omS0:6 17XM0:7 mSo0:6*2 17XM0:7 omS0:6 15Di0:7*2 omS0:6 17XM0:7 mSo0:6*2 17XM0:7 omS0:6 15Di0:7*3 omS0:6 17XM0:7 mSo0:6*2 17XM0:7 omS0:6 15Di0:7*2 omS0:6 17XM0:7 mSo0:6*3 17XM0:7 omS0:6 15Di0:7*2|CET-1CEST,M3.5.0,M10.5.0/3",
  "-pS,0 0,0 -uG,0 0,0|-1j6MIa:1 fh1qa:2 mdLuG:1|GMT0",
  "-11O,0 -uG,0 0,0|-1j6M4e:1 tL76u:2|GMT0",
  "2JK,0 2em,0 2Qi,0 2em,0|-19N2nK:1 V+Qma:2 OTES4:1|EAT-3",
  "2Xq,0 2em,0|-1k32tq:1|EAT-3",
  "aO,0 uG,0|-1j6NgO:1|WAT-1",
  "-nW,0 -uG,0 uG,1 0,0|-13jmyW:1 1FYB+m:3 5bjm:2 UJlm:3 1P/UG:2 nRBm:3 1H5yG:2 L57m:3 u6aCG:2 UJlm:3 1P/UG:2 Qhjm:3 1JkiG:2 WIJm:3 1ETCG:2 dDHm:3 1Q1Em:2 R1i0:3 ADw0:2 DWs0:3 15Di0:2 N4a0:3 BDC0:2 PjK0:3 omS0:2 TgS0:3 BYI0:2 S0+0:3 omS0:2 POE0:3 BYI0:2 WJC0:3 omS0:2 N4a0:3 BYI0:2 awW0:3 mSo0:2 ITG0:3 Dry0:2 dEA0:3 mSo0:2 G9c0:3 BYI0:2 1g8C0:3 BYI0:2 1dqY0:3 Dry0:2 1dqY0:3 BYI0:2 1dqY0:3 Dry0:2 1dqY0:3 BYI0:2 1g8C0:3 BYI0:2 1dqY0:3 Dry0:2 1dqY0:3 BYI0:2 1g8C0:3 BYI0:2 1dqY0:3 Dry0:2 1dqY0:3 BYI0:2 1dqY0:3 Dry0:2 1dqY0:3 BYI0:2 1g8C0:3 BYI0:2 1dqY0:3 Dry0:2 1dqY0:3 BYI0:2 1dqY0:3 Dry0:2*2 1dqY0:3 BYI0:2 1dqY0:3 Dry0:2 1dqY0:3 BYI0:2 1g8C0:3 BYI0:2 1dqY0:3 Dry0:2 1dqY0:3 BYI0:2 1dqY0:3 Dry0:2*2 1dqY0:3 BYI0:2 1dqY0:3 Dry0:2 1dqY0:3 BYI0:2 1g8C0:3 BYI0:2 1dqY0:3 Dry0:2 1dqY0:3 BYI0:2 1dqY0:3 Dry0:2*2 1dqY0:3 BYI0:2 1dqY0:3 Dry0:2 1dqY0:3 BYI0:2 1g8C0:3 BYI0:2 1dqY0:3 Dry0:2 1dqY0:3 BYI0:2 1dqY0:3 Dry0:2*2 1dqY0:3 BYI0:2 1dqY0:3 Dry0:2 1dqY0:3 BYI0:2 1g8C0:3 BYI0:2 1dqY0:3 Dry0:2 1dqY0:3 BYI0:2 1dqY0:3 Dry0:2*2 1dqY0:3 BYI0:2 1dqY0:3 Dry0:2 1dqY0:3 BYI0:2 1g8C0:3 BYI0:2 1dqY0:3 Dry0:2 1dqY0:3 BYI0:2 1dqY0:3 Dry0:2*2 1dqY0:3 BYI0:2 1dqY0:3 Dry0:2 1dqY0:3 BYI0:2 1g8C0:3 BYI0:2 1dqY0:3 Dry0:2 1dqY0:3 BYI0:2 1dqY0:3 Dry0:2 1dqY0:3 BYI0:2 1g8C0:3 BYI0:2 1dqY0:3 Dry0:2 1dqY0:3 BYI0:2 1g8C0:3 BYI0:2 1dqY0:3 Dry0:2|<+00>0<+01>,0/0,J365/25",
  "-ni,0 -ni,0 -bW,1 -uG,0 0,0|-2bXLSK:1 xFHQ0:3 aXo4a:2 du3G:3 oRem:2 15tbG:3*2 oRem:2 16ChG:3 oRem:2 15tbG:3*2 oRem:2 1P+JG:3 UKwm:2 1K5G:3 4FbYm:4|GMT0",
  "1XC,0 1KO,0 1mW,0 2em,1|-2Vu8/C:1 Y9ryq:2 1CHvyO:3 x+Bm:2|CAT-2",
  "1qS,0 1mW,0|-1zkJYS:1|CAT-2",
  "1f0,0 1KO,0 2em,1 1mW,0|-2IXBx0:1 Kouue:3 1APxqO:2 x+Bm:3 x/yG:2 x+Bm:3|SAST-2",
  "1sa,0 2em,1 1mW,0 2em,0 1mW,0|-19N2Ka:2 19+Zq4:1 t1nm:2 10yMG:1 tMtm:2 11HSG:1 tMtm:2 10dGG:1 thzm:2 10IAG:1 u13m:2 /z4G:1 uM9m:2 /d+G:1 v0Lm:2 +zoG:1 vLRm:2 10yMG:1 tMtm:2 10dGG:1 thzm:2 10IAG:1 uM9m:2 /d+G:1 uhFm:2 /IuG:1 v0Lm:2 +zoG:1 vLRm:2 10yMG:1 thzm:2 10IAG:1 u13m:2 QpiPG:3 dbjKm:2|CAT-2",
  "1va,0 2em,0 2Ce,0 2Qi,0 2em,0|-1E4I3a:1 2qxkq:2 Xskm8:3 Gxi1y:1|EAT-3",
  "1w0,0 2em,1 1mW,0 2em,0 1mW,0|-19N2O0:2 19+ZtW:1 t1nm:2 10yMG:1 tMtm:2 11HSG:1 tMtm:2 10dGG:1 thzm:2 10IAG:1 u13m:2 /z4G:1 uM9m:2 /d+G:1 v0Lm:2 +zoG:1 vLRm:2 10yMG:1 tMtm:2 10dGG:1 thzm:2 10IAG:1 uM9m:2 /d+G:1 uhFm:2 /IuG:1 v0Lm:2 +zoG:1 vLRm:2 10yMG:1 thzm:2 10IAG:1 u13m:2 QpiPG:3 XU9ym:2|CAT-2",
  "1mm,0 1mW,0|-113l6m:1|CAT-2",
  "vO,0 uG,0|-27ijDO:1|WAT-1",
  "Cl,0 0,0 S8,0 uG,0|-1vL8yl:1 5fEyl:0 AMUFH:2 Afwkd:3|WAT-1",
  "ZS,0 uG,0|-1j6NfS:1|WAT-1",
  "4a,0 0,0|-2Gr3ca:1|GMT0",
  "ne,0 mq,0 uG,0|-2Ijide:1 bdKfO:2|WAT-1",
  "1d0,0 uG,0 1mW,0|-27ijx0:1 gFJgm:2|CAT-2",
  "1g4,0 1mW,0|-1zkJO4:1|CAT-2",
  "Wy,0 0,0 uG,0|-1j6Ncy:1 1XkJWy:2|WAT-1",
  "1wA,0 1mW,0|-1olIgA:1|CAT-2",
  "1d8,0 1mW,0 2em,1|-1zkJL8:1 1CHwF8:2 x+Bm:1|SAST-2",
  "1qe,0 1mW,0|-1zkJYe:1|SAST-2",
  "2g8,0 2em,0 2Ce,0 2em,0|-2FGvi8:1 15vsbO:2 mw7o8:1|EAT-3",
  "-eS,0 -eS,0 -fk,0 0,0|-2bXLba:1 15vCO0:2 1ZQktI:3|GMT0",
  "2A4,0 2Ce,0 2em,0 2Qi,0 2em,0|-1q02u4:1 bxmXS:2 2sGPu:1 D9So8:3 AViry:2|EAT-3",
  "uS,0 uG,0 1mW,1|-1j6N+S:1 1/V/4C:2 m6pm:1|WAT-1",
  "7y,0 -uG,0 0,0 uG,0|-1j6NDy:1 fh3eC:2 mdK7m:3|WAT-1",
  "-xq,0 0,0 -uG,0 0,0|-1j6MAC:1 fh1iC:2 oKn0G:1|GMT0",
  "-5i,0 0,0|-1j6N0K:1|GMT0",
  "9q,0 0,0 uG,0|-1j6NFq:1 fh2nq:2|WAT-1",
  "PG,0 -YT,0 0,0 uG,0 0,0|-2XmmBG:1 qgP5G:2 37OlcG:3 1uJE0:4|GMT0",
  "nS,0 1mW,1 uG,0 1mW,0|-1U3JxS:2 xoE/i:1 P/nG:2 3LIIm:1 RfFG:2 3HzcG:1 Uerm:2 5fFeG:3 hGtjm:2 ThKG:1 yJHm:2 x/yG:1 yJHm:2 yL2G:1 yJHm:2 zfQG:1 wfpm:2 y/EG:1 x+Bm:2 xLmG:1 yJHm:2 yL2G:1 yJHm:2 x/yG:1 yJHm:2 16u2G:3 C3Zbm:2 zKKG:1 yJHm:3 SQ2uW:2 jq20:1 15Di0:3|EET-2",
  "cC,0 8n,0 1mW,1 uG,0 uG,0 1mW,1|-2ckUmC:1 u6ZnR:4 qsZYH:2 17XM0:3 WeI0:2 31p80:4 onKG:5 1EU4W:4 mSo0:5 6Fvm:4 2feG:5 rOJm:4 x/yG:5 zw/G:4 w38m:5 t01G:4 xUScG:2 mSo0:3 18BY0:2 oRM0:3 IBo20:2 cEu0:3 x/40:2 x/40:3 18BY0:2 o6G0:3 RRkQ0:2 o78G:3 wMUG:2 17XM0:3 mSo0:2 17XM0:3 omS0:2 15Di0:3|CET-1",
  "108,0 1KO,0 1mW,0 2em,1 1mW,0 uG,0 1mW,1 1mW,0|-2IXBI8:1 KouFm:2 1APxqO:3 x+Bm:2 1OQ3Xm:4 7XX+0:5 t5Im:6 15Cpm:5 onKG:6 17WTm:5 mTgG:6 17WTm:5 onKG:6 15Cpm:5*4 onKG:6 17WTm:5 mTgG:6 17WTm:5 onKG:6 15Cpm:5*4 onKG:6 17WTm:5 onKG:6 15Cpm:5*4 onKG:6 17WTm:5 mTgG:6 17WTm:5 onKG:6 15Cpm:5*3 onKG:6 Gn9G:4|CAT-2",
  "AlY,0 -AMU,0 -9gm,0 -8oW,1 -8oW,1 -9gm,0 -8oW,1 -8oW,0 -7wG,1 -8oW,0|-30FG8l:1 zn5oD:2 1E0Ufo:3 6cg+W:4 FLlG:2 eSGLm:5 3vXkW:6 x+Bm:5 x/yG:6*2 +Hrm:5 x/yG:6 x+Bm:5*2 N5SG:6 1Wuhm:5 dF2G:6 1Gl5m:5 x/yG:6 +Hrm:5 viIG:6 +Hrm:5 x/yG:6 x+Bm:5*4 x/yG:6 +Hrm:5 viIG:6 +Hrm:7 AC9W:9 nowW:8 x+Bm:9 x/yG:8*2 x+Bm:9 r4+G:8 12v9m:9 r4+G:8 15Cpm:9 onKG:8*2 15Cpm:9 r4+G:8 12v9m:9*2 r4+G:8 15Cpm:9 onKG:8*2 15Cpm:9 r4+G:8 12v9m:9*3 r4+G:8 15Cpm:9 onKG:8*2 15Cpm:9 r4+G:8 12v9m:9*2 r4+G:8 15Cpm:9 onKG:8*2 15Cpm:9 hsMG:8 1ERRm:9 fYiG:8*2 1ERRm:9 hsMG:8 1ERRm:9 fYiG:8*5 1ERRm:9 hsMG:8 1ERRm:9 fYiG:8*4 1ERRm:9 hsMG:8 1ERRm:9 fYiG:8*5 1ERRm:9 hsMG:8 1ERRm:9 fYiG:8*4 1ERRm:9 hsMG:8 1ERRm:9 fYiG:8*5 1ERRm:9|HST10HDT,M3.2.0,M11.1.0",
  "CJu,0 -8o8,0 -8oW,0 -7wG,1 -7wG,1 -8oW,0 -7wG,1 -7wG,0 -720,1 -7wG,0|-30FG8l:1 zn4Dt:2 1E0VLu:3 6chsm:4 FKt0:2 eSGLm:5 3vXkW:6 x+Bm:5 x/yG:6*2 +Hrm:5 x/yG:6 x+Bm:5*2 N5SG:6 1Wuhm:5 dF2G:6 1Gl5m:5 x/yG:6 +Hrm:5 viIG:6 +Hrm:5 x/yG:6 x+Bm:5*4 x/yG:6 +Hrm:5 viIG:6 +Hrm:7 AC9W:9 nowW:8 x+Bm:9 x/yG:8*2 x+Bm:9 r4+G:8 12v9m:9 r4+G:8 15Cpm:9 onKG:8*2 15Cpm:9 r4+G:8 12v9m:9*2 r4+G:8 15Cpm:9 onKG:8*2 15Cpm:9 r4+G:8 12v9m:9*3 r4+G:8 15Cpm:9 onKG:8*2 15Cpm:9 r4+G:8 12v9m:9*2 r4+G:8 15Cpm:9 onKG:8*2 15Cpm:9 hsMG:8 1ERRm:9 fYiG:8*2 1ERRm:9 hsMG:8 1ERRm:9 fYiG:8*5 1ERRm:9 hsMG:8 1ERRm:9 fYiG:8*4 1ERRm:9 hsMG:8 1ERRm:9 fYiG:8*5 1ERRm:9 hsMG:8 1ERRm:9 fYiG:8*4 1ERRm:9 hsMG:8 1ERRm:9 fYiG:8*5 1ERRm:9|AKST9AKDT,M3.2.0,M11.1.0",
  "-3iW,0 -3X0,0|-1ioChW:1|AST4",
  "-3dm,0 -4PG,0 -3X0,0|-1ioCmG:1 192wXW:2|AST4",
  "-2qm,0 -1mW,1 -2em,0|-1fLOlG:2 XPDMm:1 xVR0:2 y/EG:1 xJ/m:2 VMZeG:1 iqm0:2 1BUU0:1 dtTm:2 1GRmG:1 eCZm:2 1GRmG:1 TfZm:2 KGyoG:1 RLvm:2 1kmOG:1 JRfm:2 1GmsG:1 TfZm:2 1GmsG:1 dYNm:2 1GmsG:1 dtTm:2 XFX2G:1 hqbm:2 19ruG:1 avdm:2 1JPcG:1 Ybzm:2 1J4WG:1 Ybzm:2 1LOAG:1 dDHm:2 Agx8G:1 dDHm:2 1ETCG:1 hqbm:2 1CUeG:1 m6pm:2 19ruG:1 hqbm:2 19ruG:1 mRvm:2 19ruG:1 hqbm:2 1ETCG:1 fWxm:2 1LOAG:1 Ybzm:2 ID7IG:1 dDHm:2 ktyPV:2|<-03>3",
  "-3RC,0 -3mm,0 -3X0,0 -2em,1 -1mW,1 -2em,0|-2DOrUq:1 lzURa:2 JwCCG:3 dtTm:2 10yMG:3 jU3m:2 1GmsG:3 dYNm:2*3 1GmsG:3 dtTm:2 1GmsG:3 dYNm:2*3 1GmsG:3 dtTm:2 eEKG:3 1p0rm:2 eEKG:3 3NtXm:2 OkwG:3 4U4Vm:2 16YyG:3 V+QDm:2 OkwG:3 PNLm:2 1BAGG:3 j8zm:2*2 1BAGG:3 thzm:2 x/yG:3 +Hrm:2 x/yG:3 x+Bm:2 x/yG:5 85nPm:4 WIJm:5 RS4OG:4 Uzxm:5 19ruG:4 k8Fm:5 1C9YG:4 hqbm:5*2 1C9YG:4 k8Fm:5 CNM+G:3 o6G0:5 Ejzy0:4 PNLm:5 17YEG:4 mRvm:5 sGvxV:5|<-03>3",
  "-3si,0 -3mm,0 -3X0,0 -2em,1 -1mW,1 -2em,0|-2DOr3K:1 lzU04:2 JwCCG:3 dtTm:2 10yMG:3 jU3m:2 1GmsG:3 dYNm:2*3 1GmsG:3 dtTm:2 1GmsG:3 dYNm:2*3 1GmsG:3 dtTm:2 eEKG:3 1p0rm:2 eEKG:3 3NtXm:2 OkwG:3 4U4Vm:2 16YyG:3 V+QDm:2 OkwG:3 PNLm:2 1BAGG:3 j8zm:2*2 1BAGG:3 thzm:2 x/yG:3 +Hrm:2 x/yG:3 x+Bm:2 x/yG:5 85nPm:4 WIJm:5 RS4OG:4 Uzxm:5 19ruG:4 k8Fm:5 1C9YG:4 hqbm:2 1CAQW:4 hpjW:5 1C9YG:4 k8Fm:5 CNM+G:3 o6G0:5 7/CQ0:2 6HgG:5 6eVtm:4 PNLm:5 u8u3V:5|<-03>3",
  "-3mm,0 -3mm,0 -3X0,0 -2em,1 -1mW,1 -2em,0|-2DOr9G:1 lzU60:2 JwCCG:3 dtTm:2 10yMG:3 jU3m:2 1GmsG:3 dYNm:2*3 1GmsG:3 dtTm:2 1GmsG:3 dYNm:2*3 1GmsG:3 dtTm:2 eEKG:3 1p0rm:2 eEKG:3 3NtXm:2 OkwG:3 4U4Vm:2 16YyG:3 V+QDm:2 OkwG:3 PNLm:2 1BAGG:3 j8zm:2*2 1BAGG:3 thzm:2 x/yG:3 +Hrm:2 x/yG:3 x+Bm:2 x/yG:5 85nPm:4 WIJm:5 RS4OG:4 Uzxm:5 19ruG:4 k8Fm:5 1C9YG:4 hqbm:2 1CAQW:4 hpjW:5 1C9YG:4 k8Fm:5 CNM+G:3 o6G0:5 Ejzy0:4 PNLm:5 17YEG:4 mRvm:5 sGvxV:5|<-03>3",
  "-3qu,0 -3mm,0 -3X0,0 -2em,1 -1mW,1 -2em,0|-2DOr58:1 lzU1u:2 JwCCG:3 dtTm:2 10yMG:3 jU3m:2 1GmsG:3 dYNm:2*3 1GmsG:3 dtTm:2 1GmsG:3 dYNm:2*3 1GmsG:3 dtTm:2 eEKG:3 1p0rm:2 eEKG:3 3NtXm:2 OkwG:3 4U4Vm:2 16YyG:3 V+QDm:2 OkwG:3 PNLm:2 1BAGG:3 j8zm:2*2 1BAGG:3 thzm:2 x/yG:3 +Hrm:2 x/yG:3 x+Bm:2 x/yG:5 85nPm:4 WIJm:5 RS4OG:4 Uzxm:5 19ruG:4 k8Fm:2 1EU4W:3 k8Fm:2 12wwG:4 mR1W:5 1C9YG:4 k8Fm:5 CNM+G:3 o6G0:5 Ejzy0:4 PNLm:5 u8u3V:5|<-03>3",
  "-3wi,0 -3mm,0 -3X0,0 -2em,1 -1mW,1 -2em,0|-2DOq/K:1 lzTy4:2 JwCCG:3 dtTm:2 10yMG:3 jU3m:2 1GmsG:3 dYNm:2*3 1GmsG:3 dtTm:2 1GmsG:3 dYNm:2*3 1GmsG:3 dtTm:2 eEKG:3 1p0rm:2 eEKG:3 3NtXm:2 OkwG:3 4U4Vm:2 16YyG:3 V+QDm:2 OkwG:3 PNLm:2 1BAGG:3 j8zm:2*2 1BAGG:3 thzm:2 x/yG:3 +Hrm:2 x/yG:3 x+Bm:2 x/yG:5 85nPm:4 WIJm:5 RS4OG:4 Uzxm:5 19ruG:4 k8Fm:5 1C9YG:4 hAPm:2 M72W:5 sihm:4 hqbm:5 1C9YG:4 k8Fm:5 CNM+G:3 o6G0:5 7/CQ0:2 6HgG:5 6eVtm:4 PNLm:5 u8u3V:5|<-03>3",
  "-424,0 -3mm,0 -3X0,0 -2em,1 -1mW,1 -2em,0|-2DOqty:1 lzTqi:2 JwCCG:3 dtTm:2 10yMG:3 jU3m:2 1GmsG:3 dYNm:2*3 1GmsG:3 dtTm:2 1GmsG:3 dYNm:2*3 1GmsG:3 dtTm:2 eEKG:3 1p0rm:2 eEKG:3 3NtXm:2 OkwG:3 4U4Vm:2 16YyG:3 V+QDm:2 OkwG:3 PNLm:2 1BAGG:3 j8zm:2*2 1BAGG:3 thzm:2 x/yG:3 +Hrm:2 x/yG:3 x+Bm:2 x/yG:5 85nPm:4 WIJm:5 RS4OG:4 Uzxm:5 19ruG:4 k8Fm:2 1ABsW:3 j8zm:2 1BAGG:3 jU3m:2 1C9YG:4 k7NW:5 CNM+G:3 o6G0:5 7yEa0:2 fYiG:5 68Chm:4 PNLm:5 u8u3V:5|<-03>3",
  "-43a,0 -3mm,0 -3X0,0 -2em,1 -1mW,1 -2em,0|-2DOqsS:1 lzTpC:2 JwCCG:3 dtTm:2 10yMG:3 jU3m:2 1GmsG:3 dYNm:2*3 1GmsG:3 dtTm:2 1GmsG:3 dYNm:2*3 1GmsG:3 dtTm:2 eEKG:3 1p0rm:2 eEKG:3 3NtXm:2 OkwG:3 4U4Vm:2 16YyG:3 V+QDm:2 OkwG:3 PNLm:2 1BAGG:3 j8zm:2*2 1BAGG:3 thzm:2 x/yG:3 +Hrm:2 x/yG:3 x+Bm:2 x/yG:5 85nPm:4 WIJm:5 RS4OG:4 Uzxm:5 19ruG:4 k8Fm:5 1C9YG:4 hqbm:5*2 1C9YG:4 k8Fm:5 CNM+G:3 o6G0:5 7/CQ0:2 6HgG:5 6eVtm:4 PNLm:5 u8u3V:5|<-03>3",
  "-3rK,0 -3mm,0 -3X0,0 -2em,1 -1mW,1 -2em,0|-2DOr4i:1 lzU1S:2 JwCCG:3 dtTm:2 10yMG:3 jU3m:2 1GmsG:3 dYNm:2*3 1GmsG:3 dtTm:2 1GmsG:3 dYNm:2*3 1GmsG:3 dtTm:2 eEKG:3 1p0rm:2 eEKG:3 3NtXm:2 OkwG:3 4U4Vm:2 16YyG:3 V+QDm:2 OkwG:3 PNLm:2 1BAGG:3 j8zm:2*2 1BAGG:3 thzm:2 x/yG:3 +Hrm:2 x/yG:3 x+Bm:2 x/yG:5 85nPm:4 WIJm:5 RS4OG:4 Uzxm:5 19ruG:4 k8Fm:5 1C9YG:4 hqbm:2 1CAQW:4 hpjW:5 1C9YG:4 k8Fm:5 CNM+G:3 o6G0:5 Ejzy0:4 PNLm:5 u8u3V:5|<-03>3",
  "-40y,0 -3mm,0 -3X0,0 -2em,1 -1mW,1 -2em,0|-2DOqv4:1 lzTrq:2 JwCCG:3 dtTm:2 10yMG:3 jU3m:2 1GmsG:3 dYNm:2*3 1GmsG:3 dtTm:2 1GmsG:3 dYNm:2*3 1GmsG:3 dtTm:2 eEKG:3 1p0rm:2 eEKG:3 3NtXm:2 OkwG:3 4U4Vm:2 16YyG:3 V+QDm:2 OkwG:3 PNLm:2 1BAGG:3 j8zm:2*2 1BAGG:3 thzm:2 x/yG:3 +Hrm:2 x/yG:3 x+Bm:2 x/yG:5 85nPm:4 WIJm:5 RS4OG:4 Uzxm:5 19ruG:4 k8Fm:5 1C9YG:4 hAPm:2 M72W:5 sihm:4 hqbm:5 1C9YG:4 k8Fm:5 CNM+G:3 o6G0:5 7+tK0:2 I92G:5 6Szbm:4 PNLm:5 u8u3V:5|<-03>3",
  "-3uq,0 -3mm,0 -3X0,0 -2em,1 -1mW,1 -2em,0 -2em,1|-2DOr1C:1 lzTzy:2 JwCCG:3 dtTm:2 10yMG:3 jU3m:2 1GmsG:3 dYNm:2*3 1GmsG:3 dtTm:2 1GmsG:3 dYNm:2*3 1GmsG:3 dtTm:2 eEKG:3 1p0rm:2 eEKG:3 3NtXm:2 OkwG:3 4U4Vm:2 16YyG:3 V+QDm:2 OkwG:3 PNLm:2 1BAGG:3 j8zm:2*2 1BAGG:3 thzm:2 x/yG:3 +Hrm:2 x/yG:3 x+Bm:2 x/yG:5 85nPm:4 WIJm:5 RS4OG:4 Uzxm:5 19ruG:4 nRBm:2 16uwW:3 j8zm:2 ULWG:5 Fhwhm:3 o6G0:5 7+tK0:2 I92G:5 6Szbm:4 7FBm:3 FrOG:2 17YEG:3 mRvm:2 17YEG:5 rBgU/:5|<-03>3",
  "-3qa,0 -3mm,0 -3X0,0 -2em,1 -1mW,1 -2em,0|-2DOr5S:1 lzU2C:2 JwCCG:3 dtTm:2 10yMG:3 jU3m:2 1GmsG:3 dYNm:2*3 1GmsG:3 dtTm:2 1GmsG:3 dYNm:2*3 1GmsG:3 dtTm:2 eEKG:3 1p0rm:2 eEKG:3 3NtXm:2 OkwG:3 4U4Vm:2 16YyG:3 V+QDm:2 OkwG:3 PNLm:2 1BAGG:3 j8zm:2*2 1BAGG:3 thzm:2 x/yG:3 +Hrm:2 x/yG:3 x+Bm:2 x/yG:5 85nPm:4 WIJm:5 RS4OG:4 Uzxm:5 19ruG:4 k8Fm:5 1C9YG:4 hqbm:2 1CAQW:4 hpjW:5 1C9YG:4 k8Fm:5 CNM+G:3 o6G0:5 7/CQ0:2 3+0G:5 6gpXm:4 PNLm:5 17YEG:4 mRvm:5 sGvxV:5|<-03>3",
  "-408,0 -3mm,0 -3X0,0 -2em,1 -1mW,1 -2em,0|-2DOqvu:1 lzTse:2 JwCCG:3 dtTm:2 10yMG:3 jU3m:2 1GmsG:3 dYNm:2*3 1GmsG:3 dtTm:2 1GmsG:3 dYNm:2*3 1GmsG:3 dtTm:2 eEKG:3 1p0rm:2 eEKG:3 3NtXm:2 OkwG:3 4U4Vm:2 16YyG:3 V+QDm:2 OkwG:3 PNLm:2 1BAGG:3 j8zm:2*2 1BAGG:3 thzm:2 x/yG:3 +Hrm:2 x/yG:3 x+Bm:2 x/yG:5 85nPm:4 WIJm:5 RS4OG:4 Uzxm:5 19ruG:4 k8Fm:5 1C9YG:4 hqbm:5*2 1C9YG:4 k8Fm:5 CNM+G:3 o6G0:5 7+YE0:2 6xsG:5 6eVtm:4 PNLm:5 u8u3V:5|<-03>3",
  "-46u,0 -3z8,0 -3X0,0|-1iuT38:1 1ZUhqG:2|AST4",
  "-3OG,0 -3OG,0 -3X0,0 -2em,0 -2em,1|-2MUEvm:1 1EaEG0:2 1D4+Im:3 2qHPm:2 2qeGG:4 o5Nm:2 16YyG:4 nmHm:2*2 16YyG:4 x+Bm:2 yL2G:4 yJHm:2 yL2G:4 x+Bm:2*3 yL2G:4 yJHm:2 yL2G:4 x+Bm:2*3 yL2G:4 yJHm:2 yL2G:4 x+Bm:2 13G0G:4 r3Dm:2 yL2G:4 x+Bm:2 z+WG:4 mRvm:2 17tKG:4 wKjm:2 yg8G:4 n65m:2 17D8G:4 mm/m:2 17YEG:4 o5Nm:2 18CQG:4 k8Fm:2 19ruG:4 mRvm:2 17YEG:4 olZm:2 15EaG:4*2 olZm:2 17YEG:4 x+Bm:2 mTgG:4 17WTm:2 onKG:4 15Cpm:2 10dGG:4 mRvm:2 17YEG:4*2 mRvm:2 19ruG:4 k8Fm:2*2 19ruG:4 vgXm:2 viIG:4 +Hrm:2*2 x/yG:4 tMtm:2 10dGG:4*3 vgXm:2 +JcG:4*2 vgXm:2 10dGG:4 tMtm:2*2 10dGG:4 vgXm:2 +JcG:4*3 vgXm:2 10dGG:4 2yzm:3 OyYLF:3|<-03>3",
  "-5Na,0 -4PG,1 -5HW,0 -4PG,1 -4PG,1 -4PG,0|-2D4NkS:2 hoXqS:1 10bVm:2 fFLtm:1 2aASW:3 6clNm:4 FHM0:5|EST5",
  "-2GS,0 -1mW,1 -2em,0|-1fLPJa:2 XPDx4:1 xVR0:2 y/EG:1 xJ/m:2 VMZeG:1 iqm0:2 1BUU0:1 dtTm:2 1GRmG:1 eCZm:2 1GRmG:1 TfZm:2 KGyoG:1 RLvm:2 1kmOG:1 JRfm:2 1GmsG:1 TfZm:2 1GmsG:1 dYNm:2 1GmsG:1 dtTm:2 XFX2G:1 hqbm:2 19ruG:1 avdm:2 1JPcG:1 Ybzm:2 1J4WG:1 Ybzm:2 1LOAG:1 dDHm:2 1J4WG:1 dDHm:2 1GmsG:1 avdm:2 1LOAG:1 WIJm:2 1LOAG:1 fWxm:2 1ETCG:1*2 dDHm:2 1ETCG:1 hqbm:2 1CUeG:1 m6pm:2 19ruG:1 hqbm:2 19ruG:1 mRvm:2 19ruG:1 hqbm:2 1ETCG:1 fWxm:2 1LOAG:1 Ybzm:2 GIrWG:1 hqbm:2 mjctV:2|<-03>3",
  "-6Ai,0 -69m,0 -5HW,0 -5HW,1 -69m,0 -4PG,1 -5HW,0|-1QIHUG:1 AEaC0:2 6TIhm:4 skSG:3 olZm:4 yL2G:2 IxEfm:4 1bVHAm:3 12v9m:4 r4+G:3*3 15Cpm:4 onKG:3 15Cpm:4 +JcG:3 mRvm:4 +JcG:3 12v9m:4 r4+G:3*2 15Cpm:4 onKG:3*3 15Cpm:4 r4+G:3 12v9m:4*2 r4+G:5 15BxW:2 onKG:5 15Cpm:2*2 r4+G:5 12v9m:2*3 r4+G:5 15Cpm:2 onKG:5*2 15Cpm:2 r4+G:5 12v9m:2*2 r4+G:5 15Cpm:2 onKG:5 15Cpm:2|CST6",
  "-3Vb,0 -2em,1 -3X0,0 -3X0,0 -34u,1 -2em,1|-1jlrQR:3 veo9h:1 iBSG:2 1GP/m:1 fYiG:2 17rZm:4 oSEG:2 zcuY0:5 avdm:3 10dGG:5 tMtm:3*2 12wwG:5 q3xm:3|AST4",
  "-2rq,0 -1mW,1 -2em,0|-1fLOkC:2 XPDLi:1 xVR0:2 y/EG:1 xJ/m:2 VMZeG:1 iqm0:2 1BUU0:1 dtTm:2 1GRmG:1 eCZm:2 1GRmG:1 TfZm:2 KGyoG:1 RLvm:2 1kmOG:1 JRfm:2 1GmsG:1 TfZm:2 1GmsG:1 dYNm:2 1GmsG:1 dtTm:2 XFX2G:1 hqbm:2 19ruG:1 avdm:2 1JPcG:1 Ybzm:2 1Tz3TV:2|<-03>3",
  "-5Am,0 -4rO,1 -5HW,0 -4PG,1 -4PG,1 -4PG,1|-1ieIPG:2 CG68m:1 fXNu:2 1ESm8:1 hr1u:2 1C968:1*2 hr1u:2 1ESm8:1 fXNu:2*2 1ESm8:1 hr1u:2 1C968:1*3 hr1u:2 1ESm8:1 fXNu:2*2 1ESm8:1 hr1u:2 1C968:1*2 hr1u:2 1ESm8:1 fXNu:2*3 1ESm8:1 hr1u:2 1C968:1*2 hr1u:2 1ESm8:1 fXNu:2*2 1ESm8:1 hr1u:2 hrw8:3 5uz6G:4 edpW:2 3OuaG:1 hr1u:2 1C968:1*2 hr1u:2 1ESm8:1 fXNu:2*2 1ESm8:1 hr1u:2 1C968:1*3 hr1u:2 1ESm8:1 fXNu:2*2 1ESm8:1 hr1u:2 1C968:1*2 hr1u:2 1ESm8:1 fXNu:2*3 1ESm8:1 hr1u:2 1C968:1*2 hr1u:2 1ESm8:1 fXNu:2 Ay3a8:5 LlJm:2 Gfw4G:5 ISNm:2|CST6",
  "-3MC,0 -2em,1 -3X0,0 -2em,1 -2em,1|-2XmiRq:2 10UqnK:1 10bVm:2 hpWKG:3 6cn8G:4 FFbW:2|AST4",
  "-3ZW,0 -2em,1 -3X0,0|-1fLO0W:2 XPDWG:1 xVR0:2 y/EG:1 xJ/m:2 VMZeG:1 iqm0:2 1BUU0:1 dtTm:2 1GRmG:1 eCZm:2 1GRmG:1 TfZm:2 KGyoG:1 RLvm:2 1kmOG:1 JRfm:2 1GmsG:1 TfZm:2 1GmsG:1 dYNm:2 1GmsG:1 dtTm:2 XFX2G:1 hqbm:2 19ruG:1 avdm:2 1JPcG:1 Ybzm:2 LwluG:1 mRvm:2 19ruG:1 2Inm:2 165k9F:2|<-04>4",
  "-4Lm,0 -4Lm,0 -3X0,1 -4PG,0|-2XOyiG:1 vl220:3 2HgntW:2 1SHNm:3 1KYtQ/:3|<-05>5",
  "-6pn,0 -69m,1 -720,0 -720,0 -5HW,1 -5HW,1 -69m,0 -5HW,1|-2X++L0:3 10eYtW:1 15Cpm:2 onKG:1 15Cpm:2 6grIG:6 ZGi1m:4 6ckVW:5 FIEG:6 ebrqG:7 x+Bm:6 x/yG:7*4 +Hrm:6 x/yG:7 x+Bm:6*2 WK4G:7 1Ng3m:6 dF2G:7 1Gl5m:6 x/yG:7 +Hrm:6 viIG:7 +Hrm:6 x/yG:7 x+Bm:6*4 x/yG:7 +Hrm:6 viIG:7 +Hrm:6 x/yG:7 x+Bm:6*3 r4+G:7 12v9m:6 r4+G:7 15Cpm:6 onKG:7*2 15Cpm:6 r4+G:7 12v9m:6*2 r4+G:7 15Cpm:6 onKG:7*2 15Cpm:6 r4+G:7 12v9m:6*3 r4+G:7 15Cpm:6 onKG:7*2 15Cpm:6 r4+G:7 12v9m:6*2 r4+G:7 15Cpm:6 onKG:7*2 15Cpm:6 hsMG:7 1ERRm:6 fYiG:7*2 1ERRm:6 hsMG:7 1ERRm:6 fYiG:7*5 1ERRm:6 hsMG:7 1ERRm:6 fYiG:7*4 1ERRm:6 hsMG:7 1ERRm:6 fYiG:7*5 1ERRm:6 hsMG:7 1ERRm:6 fYiG:7*4 1ERRm:6 hsMG:7 1ERRm:6 fYiG:7*5 1ERRm:6|MST7MDT,M3.2.0,M11.1.0",
  "0,0 -5HW,1 -5HW,1 -69m,0 -5HW,1 -4PG,1 -5HW,0 -4PG,0 -5HW,1 -69m,0|-1U3JA0:3 fbZyG:1 6ckVW:2 FIEG:3 o006G:4 x+Bm:3 x/yG:4*4 +Hrm:3 viIG:4 +Hrm:3 x/yG:4 x+Bm:3*4 x/yG:4 +Hrm:3 viIG:4 +Hrm:3 x/yG:4 x+Bm:3*3 r4+G:4 12v9m:3 r4+G:4 15Cpm:3 onKG:4*2 15Cpm:3 r4+G:4 12v9m:3*2 r4+G:4 15Cpm:3 onKG:4*2 15Cpm:3 r4+G:4 12v9m:3*3 r4+G:4 15Cpm:6 omS0:5 15Cpm:7 2HvW:6 mWJ0:4 15Cpm:3 r4+G:4 12v9m:3*2 r4+G:4 15Cpm:3 onKG:4*2 15Cpm:3 hsMG:4 1ERRm:3 fYiG:4*2 1ERRm:3 hsMG:4 1ERRm:3 fYiG:4*5 1ERRm:3 hsMG:4 1ERRm:3 fYiG:4*4 1ERRm:3 hsMG:4 1ERRm:3 fYiG:4*5 1ERRm:3 hsMG:4 1ERRm:3 fYiG:4*4 1ERRm:3 hsMG:4 1ERRm:3 fYiG:4*5 1ERRm:3|MST7MDT,M3.2.0,M11.1.0",
  "-3Cq,0 -2em,1 -3X0,0|-1fLONC:2 XPDsy:1 xVR0:2 y/EG:1 xJ/m:2 VMZeG:1 iqm0:2 1BUU0:1 dtTm:2 1GRmG:1 eCZm:2 1GRmG:1 TfZm:2 KGyoG:1 RLvm:2 1kmOG:1 JRfm:2 1GmsG:1 TfZm:2 1GmsG:1 dYNm:2 1GmsG:1 dtTm:2 XFX2G:1 hqbm:2 19ruG:1 avdm:2 1JPcG:1 Ybzm:2 1J4WG:1 Ybzm:2 1LOAG:1 dDHm:2 1J4WG:1 dDHm:2 1GmsG:1 avdm:2 1LOAG:1 WIJm:2 1LOAG:1 fWxm:2 1ETCG:1*2 dDHm:2 1ETCG:1 hqbm:2 1CUeG:1 m6pm:2 19ruG:1 hqbm:2 19ruG:1 mRvm:2 19ruG:1 hqbm:2 1ETCG:1 fWxm:2 1LOAG:1 Ybzm:2 1GmsG:1 dDHm:2 1M2MG:1 aFRm:2 1ETCG:1 fWxm:2 1LOAG:1 avdm:2 1C9YG:1 fWxm:2 1GmsG:1 dDHm:2 1GmsG:1 fWxm:2 1ETCG:1*2 hqbm:2 1ETCG:1 dDHm:2 1GmsG:1*2 fWxm:2 1ETCG:1*3 fWxm:2 1LOAG:1 Ybzm:2 Zbp7F:2|<-04>4",
  "-55O,0 -5HW,0 -4PG,0 -4PG,1 -5HW,0 -3X0,1 -4PG,1 -4PG,0|-1QIIMW:1 1mr0kW:2 1xERG:4 Oxwam:3 12v9m:4 r4+G:3 12v9m:2 r460:5 dDHm:3 RimG:4 r4+G:3 15Cpm:4 onKG:3 15Cpm:4 +JcG:3 mRvm:4 +JcG:3 12v9m:4 r4+G:3*2 15Cpm:4 onKG:3*3 15Cpm:4 r4+G:3 12v9m:4*2 r4+G:3 15Cpm:4 onKG:3*2 15Cpm:4 r4+G:3 12v9m:4*2 WK4G:2|EST5",
  "-3x0,0 -3wy,0 -3z8,0 -3X0,0|-2MUEN0:1 fbn7y:2 1ZUi0C:3 1GmgOe:2 FoXS0:3 esbQF:3|<-04>4",
  "-34G,0 -3X0,0 -2em,0|-1k2zHm:1 1fpmem:2 24FCe/:2|<-03>3",
  "-4nC,0 -4V+,0 -4PG,0|-2MUDWq:1 fY8qo:2|EST5",
  "-58i,0 -4PG,1 -5HW,0 -5HW,0 -4PG,0 -4PG,1 -4PG,1 -5HW,0|-2X/05W:3 10eYtW:1 15Cpm:2 onKG:1 15Cpm:2 1C9YG:1 k8Fm:2 mTgG:1 17WTm:2 x/yG:1 mRvm:2 17YEG:1 olZm:2 15EaG:1*4 olZm:2 17YEG:1 olZm:2 15EaG:1*4 olZm:2 17YEG:1 mRvm:2 17YEG:1 olZm:2 15EaG:1 olZm:2 onKG:4 1LMPm:2 r4+G:1 olZm:2 15EaG:1 olZm:2 17YEG:1 mRvm:2 17YEG:1 olZm:2 15EaG:1 olZm:2 iBSG:5 6clNm:6 FHM0:2 15EaG:1 olZm:2*4 17YEG:1 mRvm:2 17YEG:1 olZm:2 15EaG:1*4 +Hrm:2 x/yG:1 x+Bm:2*4 x/yG:1 +Hrm:2 x/yG:1 x+Bm:2*4 x/yG:1 +Hrm:2 viIG:1 +Hrm:2 x/yG:1 x+Bm:2*4 x/yG:1 +Hrm:2 x/yG:1 x+Bm:2*2 N5SG:1 1Wuhm:2 dF2G:1 1Gl5m:2 x/yG:1 +Hrm:2 viIG:1 +Hrm:2 x/yG:1 x+Bm:2*4 x/yG:1 +Hrm:2 viIG:1 +Hrm:2 x/yG:1 x+Bm:2*3 r4+G:1 12v9m:2 r4+G:1 15Cpm:2 onKG:1*2 15Cpm:2 r4+G:1 12v9m:2*2 r4+G:1 15Cpm:2 onKG:1*2 15Cpm:2 r4+G:1 12v9m:2*3 r4+G:1 15Cpm:2 onKG:1*2 15Cpm:2 r4+G:1 12v9m:2*2 r4+G:1 15Cpm:2 onKG:1*2 15Cpm:2 hsMG:1 1ERRm:2 fYiG:1*2 1ERRm:2 hsMG:1 1ERRm:2 fYiG:1*5 1ERRm:2 hsMG:1 1ERRm:2 fYiG:1*4 1ERRm:2 hsMG:1 1ERRm:2 fYiG:1*5 1ERRm:2 hsMG:1 1ERRm:2 fYiG:1*4 1ERRm:2 hsMG:1 1ERRm:2 fYiG:1*5 1ERRm:2|CST6CDT,M3.2.0,M11.1.0",
  "-6Dq,0 -69m,0 -5HW,0 -5HW,1 -69m,0 -4PG,1 -5HW,1 -5HW,0|-1QIHUG:1 AEaC0:2 6TIhm:4 skSG:3 olZm:4 yL2G:2 1uQUyG:5 12v9m:2 r4+G:5 12v9m:2 r5sW:3 12v9m:4 r4+G:3 15Cpm:4 onKG:3 15Cpm:4 +JcG:3 mRvm:4 +JcG:3 12v9m:4 r4+G:3*2 15Cpm:4 onKG:3*3 15Cpm:4 r4+G:3 12v9m:4*2 r4+G:3 15Cpm:4 onKG:3*2 15Cpm:4 r4+G:3 12v9m:4*3 r4+G:3 15Cpm:4 onKG:3*2 15Cpm:4 r4+G:3 12v9m:4*2 r4+G:3 15Cpm:4 onKG:3 15Cpm:2|CST6",
  "-6FK,0 -69m,0 -5HW,0 -5HW,1 -69m,0 -4PG,1 -5HW,1|-1QIHUG:1 AEaC0:2 6TIhm:4 skSG:3 olZm:4 yL2G:2 1uQUyG:5 12v9m:2 r4+G:5 12v9m:2 r5sW:3 12v9m:4 r4+G:3 15Cpm:4 onKG:3 15Cpm:4 +JcG:3 mRvm:4 +JcG:3 12v9m:4 r4+G:3*2 15Cpm:4 onKG:3*3 15Cpm:4 r4+G:3 12v9m:4*2 kA0G:3 1ERRm:4 fYiG:3*5 1ERRm:4 hsMG:3 1ERRm:4 fYiG:3*4 1ERRm:4 hsMG:3 1ERRm:4 fYiG:3 1C7nm:2 AC9W:4 XgCm:3 1ERRm:4 fYiG:3*3 1ERRm:4 hsMG:3 1ERRm:4 fYiG:3*4 1ERRm:4 hsMG:3 1ERRm:4 fYiG:3*5 1ERRm:4|MST7MDT,M3.2.0,M11.1.0",
  "-4xD,0 -4xD,0 -4PG,1 -5HW,0|-2MUDMp:1 wOEm0:3 1jJZCJ:2 WIJm:3 1NhqG:2 WIJm:3 K090G:2 rjPm:3 12GkG:2 InTm:3|CST6",
  "-4EG,0 -495,0 -4PG,0 -3X0,0 -3X0,1 -2em,1 -3X0,0 -2em,0|-2MUE3m:1 bgIWr:2 CB9uB:1 47/rr:3 1Wuxx:1 FNWO5:4 16CLx:2 oSEG:4 15s/m:2*3 oSEG:4 16C5m:2 oSEG:3 ILKtm:2 K7cG:3 7gljm:4 16tA0:2 Gpo0:3 eMge0:5 mRvm:6 1ETCG:5 fWxm:6 10dGG:5 olZm:6 15EaG:5 olZm:6 17YEG:5 mRvm:6 12wwG:5 r3Dm:6 17YEG:5 mRvm:6 17YEG:5 olZm:6 15EaG:5*2 olZm:6 17YEG:5 mRvm:6*2 17YEG:5 olZm:6 15EaG:5*3 olZm:6 17YEG:5 mRvm:6*2 17YEG:5 x+Bm:6 x/yG:5 olZm:6 15EaG:5 olZm:6 17YEG:5 mRvm:6 +JcG:5 vgXm:6 17YEG:5 olZm:6 15EaG:5*3 olZm:6 17YEG:5 mRvm:6 17YEG:5 tMtm:6 10dGG:5 olZm:6 10dGG:5 +Hrm:6 +JcG:5 olZm:6 17YEG:5 mRvm:6*3 17YEG:5 olZm:6 15EaG:5*2 olZm:6 17YEG:5 mRvm:6 17YEG:5 tMtm:6 10dGG:5 olZm:6 15EaG:5 vgXm:6 +JcG:5 15Cpm:6 YdkG:5 1J2lm:6 fYiG:5 1ERRm:6 hsMG:5 1C7nm:6 hsMG:5 3B0tm:6 U0QG:5 1Pzjm:6*2 U0QG:5 1ERRm:6 onKG:5 15Cpm:6*3 r4+G:5 12v9m:6 onKG:5 17WTm:6 onKG:5 /cDm:7 O97jF:7|<-03>3",
  "-6qy,0 -69m,0 -720,0 -69m,0|-2Xmez4:1 zcDgq:2 38k+G:1|MST7",
  "-3IK,0 -2em,1 -3X0,0|-1fLOHi:2 XPDnS:1 xVR0:2 y/EG:1 xJ/m:2 VMZeG:1 iqm0:2 1BUU0:1 dtTm:2 1GRmG:1 eCZm:2 1GRmG:1 TfZm:2 KGyoG:1 RLvm:2 1kmOG:1 JRfm:2 1GmsG:1 TfZm:2 1GmsG:1 dYNm:2 1GmsG:1 dtTm:2 XFX2G:1 hqbm:2 19ruG:1 avdm:2 1JPcG:1 Ybzm:2 1J4WG:1 Ybzm:2 1LOAG:1 dDHm:2 1J4WG:1 dDHm:2 1GmsG:1 avdm:2 1LOAG:1 WIJm:2 1LOAG:1 fWxm:2 1ETCG:1*2 dDHm:2 1ETCG:1 hqbm:2 1CUeG:1 m6pm:2 19ruG:1 hqbm:2 19ruG:1 mRvm:2 19ruG:1 hqbm:2 1ETCG:1 fWxm:2 1LOAG:1 Ybzm:2 3E0UG:1 aFRm:2 1ETCG:1 fWxm:2 1LOAG:1 avdm:2 1C9YG:1 fWxm:2 1GmsG:1 dDHm:2 1GmsG:1 fWxm:2 1ETCG:1*2 hqbm:2 1ETCG:1 dDHm:2 1GmsG:1*2 fWxm:2 1ETCG:1*3 fWxm:2 1LOAG:1 Ybzm:2 Zbp7F:2|<-04>4",
  "-42Z,0 -3z8,0 -3X0,0|-1iuT7T:1 1ZUhub:2|AST4",
  "-160,0 -2em,0 -2em,0 -1mW,1 -1mW,1 0,0|-1aVxS0:1 1tpJDG:4 vdv0:2 x/40:3 x/40:2*3 x/40:3 +Ik0:2 x/40:3 x/40:2*5 x/40:3 +Ik0:2 x/40:3 x/40:2*5 Wg2W:5|GMT0",
  "-8Aq,0 -720,1 -7wG,0 -720,1 -720,1 -69m,1 -720,0 -69m,1 -69m,0|-22UN5C:2 XCZpy:1 10bVm:2 15EaG:1 qiNG:2 fvbOm:3 6cil0:4 FJ+m:2 apa9m:5 +Ik0:2 F24g0:6 CE8MG:7 x+Bm:6 x/yG:7*2 +Hrm:6 viIG:7 +Hrm:6 x/yG:7 x+Bm:6*3 r4+G:7 12v9m:6 r4+G:7 15Cpm:6 onKG:7*2 15Cpm:6 r4+G:7 12v9m:6*2 r4+G:7 15Cpm:6 onKG:7*2 15Cpm:6 r4+G:7 12v9m:6*3 r4+G:7 15Cpm:6 onKG:7*2 15Cpm:6 r4+G:7 12v9m:6*2 r4+G:7 15Cpm:6 onKG:7*2 15Cpm:6 hsMG:7 1ERRm:6 fYiG:7*2 1ERRm:6 hsMG:7 1ERRm:6 fYiG:7*5 1ERRm:6 hsMG:7 1ERRm:6 fYiG:7*4 1EPhG:8|MST7",
  "-72u,0 -69m,1 -720,0 -69m,1 -69m,1 -69m,0|-2Xmel8:2 10Uqbe:1 10bVm:2 hpWKG:3 6cjdG:4 FJ6W:2 2zCiG:1 olZm:2 15EaG:1*2 olZm:2 17YEG:1 mRvm:2 17YEG:1 olZm:2 15EaG:1*4 olZm:2 17YEG:1 olZm:2 15EaG:1*4 olZm:2 17YEG:1 mRvm:2 17YEG:1 x+Bm:2 x/yG:1*3 +Hrm:2 viIG:1 +Hrm:2 x/yG:1 x+Bm:2*4 x/yG:1 +Hrm:2 x/yG:1 eCZm:5|MST7",
  "-69i,0 -5HW,1 -69m,0 -69m,0 -5HW,1 -5HW,1|-2X+/DG:3 10eYtW:1 15Cpm:2 onKG:1*2 17WTm:2 mTgG:1 ISNm:2 c+MOG:4 6ckVW:5 FIEG:2 apbwG:1 +Hrm:2 viIG:1 +Hrm:2 x/yG:1 x+Bm:2*4 x/yG:1 +Hrm:2 x/yG:1 x+Bm:2*2 N5SG:1 1Wuhm:2 dF2G:1 1Gl5m:2 x/yG:1 +Hrm:2 viIG:1 +Hrm:2 x/yG:1 x+Bm:2*4 x/yG:1 +Hrm:2 viIG:1 +Hrm:2 x/yG:1 x+Bm:2*3 r4+G:1 12v9m:2 r4+G:1 15Cpm:2 onKG:1*2 15Cpm:2 r4+G:1 12v9m:2*2 r4+G:1 15Cpm:2 onKG:1*2 15Cpm:2 r4+G:1 12v9m:2*3 r4+G:1 15Cpm:2 onKG:1*2 15Cpm:2 r4+G:1 12v9m:2*2 r4+G:1 15Cpm:2 onKG:1*2 15Cpm:2 hsMG:1 1ERRm:2 fYiG:1*2 1ERRm:2 hsMG:1 1ERRm:2 fYiG:1*5 1ERRm:2 hsMG:1 1ERRm:2 fYiG:1*4 1ERRm:2 hsMG:1 1ERRm:2 fYiG:1*5 1ERRm:2 hsMG:1 1ERRm:2 fYiG:1*4 1ERRm:2 hsMG:1 1ERRm:2 fYiG:1*5 1ERRm:2|MST7MDT,M3.2.0,M11.1.0",
  "-4tR,0 -5HW,0 -4PG,0 -3X0,1 -3X0,1 -3X0,1|-1wGjsb:1 JVt6b:2 oJ5nm:3 6cmG0:4 FGTm:2 4rAqG:5 olZm:2 ZCkwi:5 jAjK:2 x/yG:5 x+Bm:2 8UC6G:5 x+Bm:2 N5SG:5 1Wuhm:2 x/yG:5 x+Bm:2 x/yG:5 +Hrm:2 viIG:5 +Hrm:2 x/yG:5 x+Bm:2*4 x/yG:5 +Hrm:2 viIG:5 +Hrm:2 x/yG:5 x+Bm:2*3 r4+G:5 12v9m:2 r4+G:5 15Cpm:2 onKG:5*2 15Cpm:2 r4+G:5 12v9m:2*2 r4+G:5 15Cpm:2 onKG:5*2 15Cpm:2 r4+G:5 12v9m:2*3 r4+G:5 15Cpm:2 onKG:5*2 15Cpm:2 r4+G:5 12v9m:2*2 r4+G:5 15Cpm:2 onKG:5*2 15Cpm:2 hsMG:5 1ERRm:2 fYiG:5*2 1ERRm:2 hsMG:5 1ERRm:2 fYiG:5*5 1ERRm:2 hsMG:5 1ERRm:2 fYiG:5*4 1ERRm:2 hsMG:5 1ERRm:2 fYiG:5*5 1ERRm:2 hsMG:5 1ERRm:2 fYiG:5*4 1ERRm:2 hsMG:5 1ERRm:2 fYiG:5*5 1ERRm:2|EST5EDT,M3.2.0,M11.1.0",
  "-3cG,0 -3X0,0|-1k2ykq:1|AST4",
  "-6fW,0 -5HW,1 -69m,0 -5HW,1 -5HW,1|-1t8J4W:2 LsU2m:1 10bVm:2 tOeG:1 EVFm:2 1k6CG:1 +Hrm:2 viIG:1 olZm:2 17YEG:1 mRvm:2 17YEG:1 olZm:2 YYagG:3 6ckVW:4 FIEG:2 2zCiG:1 olZm:2 kG3sG:1 x+Bm:2 x/yG:1*4 +Hrm:2 viIG:1 +Hrm:2 x/yG:1 x+Bm:2*4 x/yG:1 +Hrm:2 viIG:1 +Hrm:2 x/yG:1 x+Bm:2*3 r4+G:1 12v9m:2 r4+G:1 15Cpm:2 onKG:1*2 15Cpm:2 r4+G:1 12v9m:2*2 r4+G:1 15Cpm:2 onKG:1*2 15Cpm:2 r4+G:1 12v9m:2*3 r4+G:1 15Cpm:2 onKG:1*2 15Cpm:2 r4+G:1 12v9m:2*2 r4+G:1 15Cpm:2 onKG:1*2 15Cpm:2 hsMG:1 1ERRm:2 fYiG:1*2 1ERRm:2 hsMG:1 1ERRm:2 fYiG:1*5 1ERRm:2 hsMG:1 1ERRm:2 fYiG:1*4 1ERRm:2 hsMG:1 1ERRm:2 fYiG:1*5 1ERRm:2 hsMG:1 1ERRm:2 fYiG:1*4 1ERRm:2 hsMG:1 1ERRm:2 fYiG:1*5 1ERRm:2|MST7MDT,M3.2.0,M11.1.0",
  "-460,0 -3X0,1 -4PG,0 -3X0,0 -4PG,0|-1fLNU0:2 XPDs0:1 xVR0:2 y/EG:1 xJ/m:2 VMZeG:1 iqm0:2 1BUU0:1 dtTm:2 1GRmG:1 eCZm:2 1GRmG:1 TfZm:2 KGyoG:1 RLvm:2 1kmOG:1 JRfm:2 1GmsG:1 TfZm:2 1GmsG:1 dYNm:2 1GmsG:1 dtTm:2 XFX2G:1 hqbm:2 19ruG:1 avdm:2 1JPcG:1 Ybzm:2 AjEoG:1 fWxm:2 Q+PyG:3 A7eLm:2 jWFi/:2|<-05>5",
  "-5EW,0 -4PG,1 -5HW,0|-1SAbdW:2 1ynJR0:1 mRvm:2 17YEG:1 mRvm:2|CST6",
  "-6sq,0 -69m,0 -720,0 -69m,0 -69m,1 -69m,1 -69m,1 -720,0|-1QIHUG:1 3mcS0:2 6T+eG:3 6TIhm:2 jAkG:4 x+Bm:2 JtvgG:5 6EMRm:6 URg0:2 4VQeG:4 1Tblm:2 2Rb8G:4 m6pm:2 17Z+m:4 olZm:2 15EaG:4 olZm:2 15Di0:4 omS0:2*3 17XM0:4 omS0:2 15Di0:4*4 omS0:2 17XM0:4 mSo0:2 17XM0:4 x/40:2 x/40:4*3 +Ik0:2 vhQ0:4 +Ik0:2 x/yG:4 x+Bm:2*4 x/yG:4 +Hrm:2 x/yG:4 x+Bm:2*2 N5SG:4 1Wuhm:2 dF2G:4 1Gl5m:2 x/yG:4 +Hrm:2 viIG:4 +Hrm:2 x/yG:4 x+Bm:2*4 x/yG:4 +Hrm:2 viIG:4 +Hrm:2 x/yG:4 x+Bm:2*3 r4+G:4 12v9m:2 r4+G:4 15Cpm:2 onKG:4*2 15Cpm:2 r4+G:4 12v9m:2*2 r4+G:4 15Cpm:2 onKG:4*2 15Cpm:2 r4+G:4 12v9m:2*3 r4+G:4 15Cpm:2 onKG:4*2 15Cpm:2 r4+G:4 12v9m:2*2 r4+G:4 15Cpm:2 onKG:4*3 15Cpm:2 r4+G:4 12v9m:2*2 kA0G:4 1ERRm:2 fYiG:4*5 1ERRm:2 hsMG:4 1ERRm:2 fYiG:4*4 1ERRm:2 hsMG:4 1ERRm:2 fYiG:4*5 1ERRm:2 hsMG:4 1ERRm:2 fYiG:4*4 1ERRm:2 hsMG:4 1ERRm:2 fYiG:4*5 1ERRm:2|PST8PDT,M3.2.0,M11.1.0",
  "-7C7,0 -69m,1 -720,0 -69m,1 -69m,1 -69m,0|-2Xmebv:2 10UqSP:1 10bVm:2 hpWKG:3 6cjdG:4 FJ6W:2 2zCiG:1 olZm:2 15EaG:1*2 olZm:2 17YEG:1 mRvm:2 17YEG:1 olZm:2 15EaG:1*4 olZm:2 17YEG:1 olZm:2 15EaG:1*4 olZm:2 17YEG:1 mRvm:2 17YEG:1 x+Bm:2 x/yG:1*3 +Hrm:2 viIG:1 +Hrm:2 x/yG:1 x+Bm:2*4 x/yG:1 +Hrm:2 x/yG:1 x+Bm:2*4 x/yG:1 +Hrm:2 viIG:1 +Hrm:2 x/yG:1 x+Bm:2*4 x/yG:1 +Hrm:2 viIG:1 +Hrm:2 x/yG:1 x+Bm:2*3 r4+G:1 12v9m:2 r4+G:1 15Cpm:2 onKG:1*2 15Cpm:2 r4+G:1 12v9m:2*2 r4+G:1 15Cpm:2 onKG:1*2 15Cpm:2 r4+G:1 12v9m:2*3 r4+G:1 15Cpm:2 onKG:1*2 15Cpm:2 r4+G:1 12v9m:2*2 r4+G:1 15Cpm:2 onKG:1*2 15Cpm:2 hsMG:1 1ERRm:2 fYiG:1*2 1ERRm:2 hsMG:1 1ERRm:2 fYiG:1*4 1ERRm:2 fYiG:5|MST7",
  "-2GO,0 -1mW,1 -2em,0|-1fLPJe:2 XPDx8:1 xVR0:2 y/EG:1 xJ/m:2 VMZeG:1 iqm0:2 1BUU0:1 dtTm:2 1GRmG:1 eCZm:2 1GRmG:1 TfZm:2 KGyoG:1 RLvm:2 1kmOG:1 JRfm:2 1GmsG:1 TfZm:2 1GmsG:1 dYNm:2 1GmsG:1 dtTm:2 XFX2G:1 hqbm:2 19ruG:1 avdm:2 1JPcG:1 Ybzm:2 1J4WG:1 Ybzm:2 1LOAG:1 dDHm:2 I8V+G:1 mRvm:2 19ruG:1 4cRm:2 1rhMG:1 fWxm:2 13aF5V:2|<-03>3",
  "-3Wq,0 -2em,1 -3X0,0 -2em,1 -2em,1|-1/3bVC:2 Tnjqi:1 10bVm:2 hpWKG:3 6cn8G:4 FFbW:2 EFL6G:1 olZm:2 YzxSG:1 x+Bm:2 x/yG:1*4 +Hrm:2 viIG:1 +Hrm:2 x/yG:1 x+Bm:2*4 x/yG:1 +Hrm:2 viIG:1 +Hrm:2 x/yG:1 x+Bm:2*3 r4+G:1 12v9m:2 r4+G:1 15Cpm:2 onKG:1*2 15Cpm:2 r4+G:1 12v9m:2*2 r4+G:1 15Cpm:2 onKG:1*2 15Cpm:2 r4+G:1 12v9m:2*3 r4+G:1 15Cpm:2 onKG:1*2 15Cpm:2 r4+G:1 12v9m:2*2 r4+G:1 15Cpm:2 onKG:1*2 15Cpm:2 hsMG:1 1ERRm:2 fYiG:1*2 1ERRm:2 hsMG:1 1ERRm:2 fYiG:1*5 1ERRm:2 hsMG:1 1ERRm:2 fYiG:1*4 1ERRm:2 hsMG:1 1ERRm:2 fYiG:1*5 1ERRm:2 hsMG:1 1ERRm:2 fYiG:1*4 1ERRm:2 hsMG:1 1ERRm:2 fYiG:1*5 1ERRm:2|AST4ADT,M3.2.0,M11.1.0"]

end Autoresponder.Time.Table
