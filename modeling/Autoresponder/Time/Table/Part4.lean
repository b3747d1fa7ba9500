/-!
# Zone histories, part 4

Histories 239 to 344 of the zone table, each as text: the local time types (offset in
seconds east of UTC and a daylight-saving flag), the transitions (a UTC second, as a
difference from the one before after the first, and the type that starts there) and the
rule for times after the last transition. Offsets and seconds are written in base 64, with
the digits `0`-`9`, `A`-`Z`, `a`-`z`, `+` and `/`. A pair of transitions that comes several
times in a row is written once, its second item followed by `*` and the number of times.
-/

namespace Autoresponder.Time.Table

/-- Zone histories 239 to 344. -/
def part4 : List String := [
  "246,0 23u,0 2em,1 1mW,0 3X0,1 2em,1 1mW,0 2em,1 1mW,0|-2fIJq6:1 17UOAE:6 gAObu:2 eDS0:3 FVQ0:2 3hKy0:3 nnA0:2 16Y40:3 o6G0:2 16Y40:3 sja0:2 11bg0:3*2 2xYM0:4 XIU0:2 K6k0:3 xf+0:2 yfG0:3 sja0:2 o6G0:3 11Ga0:2 19r00:3 r460:2 x/40:3 vhQ0:2 omS0:3 1P+c0:2 T/Y0:3*2 1Ngy0:2 dEA0:3 15Di0:2 mSo0:3 Vb17W:5 WIJm:6 +JcG:5 hqbm:6 9GyYG:7 Dry0:8 6sMi0:7 awW0:8 1C8g0:5 k8Fm:6 1LOAG:5 avdm:6 18XWG:5 nmHm:6 15EaG:5 mRvm:6 1ETCG:5 fWxm:6 12wwG:5 olZm:6 15EaG:5 r3Dm:6*2 14aOG:5 pPlm:6 14aOG:5 n65m:6 16u2G:5 pPlm:6 /z4G:5 yzTm:6 zKKG:5 wKjm:6 zfQG:5 u13m:6 14c8m:5 olZm:6 19ruG:5 vffW:6 y/EG:5 tMtm:6 zKKG:5 /H7m:6 uj0G:5 +Hrm:6 zfQG:5 tMtm:6 ++gW:5 +y1m:6 v26G:5 yeNm:6 xLmG:5 u13m:6 /z4G:5 +y1m:6 v26G:5 yeNm:6 xLmG:5 u13m:6 12GkG:5 yeNm:6 xLmG:5 wKjm:6 zfQG:5 15s/m:6 o78G:5*3 18Afm:6 lpUG:5*2 18Afm:6 o78G:5 15s/m:6*2 o78G:5 18Afm:6 lpUG:5*2 18Afm:6 o78G:5 15s/m:6*3 o78G:5 18Afm:6 lpUG:5*2 18Afm:6 o78G:5 15s/m:6*2 o78G:5 18Afm:6 lpUG:5*3 18Afm:6 o78G:5 15s/m:6*2|IST-2IDT,M3.4.4/26,M10.5.0",
  "43W,0 3X0,0 3z8,0|-2MUMLW:1 1dSpoW:2 2l1YY/:2|<+0430>-4:30",
  "9Iy,0 9gm,0 BRG,1 AZ0,0 AZ0,0 BRG,1 AZ0,1 9gm,0 AZ0,0|-1OhMay:1 EKGGC:3 1VWuvm:2 yJHm:3 x/yG:2*2 yJHm:3 yL2G:2 y0qW:4 x/40:5 x/40:4*5 x/40:5 +Ik0:4 x/40:6 x/yG:7 awW0:4 N3hm:5 x/40:4 x/40:5*3 x/40:4 +Ik0:5 15Di0:4 omS0:5*3 17XM0:4 mSo0:5*2 17XM0:4 omS0:5 15Di0:4*2 omS0:5 17XM0:4 mSo0:5*3 17XM0:4 omS0:5 15Di0:4*2 omS0:6 17YEG:7 mSo0:4 oSW2F:4|<+12>-12",
  "3xS,0 4rO,0 5je,1 4PG,0 5HW,1 4PG,0|-1sWGDS:1 135ZO4:2 5tj/m:1 BDCuG:3 afig8:5 wNvg0:4 x+Bm:5 AedUG:4 oQTm:5 sPMG:4 11vtm:5|PKT-5",
  "58S,0 5HW,0|-1F0KMS:1 3F0KMR:1|<+06>-6",
  "4/y,0 4rO,0 53S,0|-1U3O9y:1 1y9RCa:2 1XvyzN:2|<+0545>-5:45",
  "7yL,0 720,0 8oW,1 7wG,0 7wG,0 8oW,1 7wG,1 720,0 9gm,1 8oW,0 8oW,0 9gm,0 7wG,0|-1U91iL:1 Jn+0L:3 1VWuvm:2 yJHm:3 x/yG:2*2 yJHm:3 yL2G:2 y0qW:4 x/40:5 x/40:4*5 x/40:5 +Ik0:4 x/40:6 x/yG:7 awW0:4 N3hm:5 x/40:4 x/40:5*3 x/40:4 +Ik0:5 15Di0:4 omS0:5*3 17XM0:4 mSo0:5*2 17XM0:4 omS0:5 15Di0:4*2 M3XW:10 Si2G:8 17XM0:9 mSo0:8*3 17XM0:9 omS0:8 15Di0:9*2 omS0:8 17XM0:9 mSo0:11 t/JG:9 5tSQm:4 hj3R/:4|<+09>-9",
  "5BO,0 5BG,0 4j6,0 4rO,0 5je,1|-3PHUVO:1 TBTC8:2 13jT6A:3 13FSzk:4 1AUJm:3 Zy6G:4 5tj/m:3|IST-5:30",
  "5SE,0 5HW,0 720,1 69m,0 69m,0 720,1 69m,1 5HW,0 720,0 720,1 69m,0|-1U1l8E:1 JgjCk:3 1VWuvm:2 yJHm:3 x/yG:2*2 yJHm:3 yL2G:2 y0qW:4 x/40:5 x/40:4*5 x/40:5 +Ik0:4 x/40:6 x/yG:7 awW0:4 N3hm:5 x/40:4 x/40:5*3 x/40:4 +Ik0:5 15Di0:4 omS0:5*3 17XM0:4 mSo0:5*2 17XM0:4 omS0:5 15Di0:4*2 omS0:5 17XM0:4 mSo0:5*3 17XM0:4 omS0:5 15Di0:4*2 omS0:5 17XM0:4 mSo0:8 6lQrm:4 hj1hV:4|<+07>-7",
  "5zM,0 65T,0 69m,0 6SW,1 6SW,0 6bu,0 7wG,0 720,0|-21oQfM:1 8JI/v:2 puyZj:3 5evNG:4 AgG40:5 tNce:6 6jmxe:5 14IO0G:7 1fRX7/:7|<+08>-8",
  "6Tm,0 6bu,0 7Km,1 720,0 7wG,0 720,0|-1ITVbm:1 CtK3u:3 54z/u:2 T/FG:3 1Qf4m:2 T/FG:3 1QJ+m:2*3 T/FG:3 1Qf4m:2 T/FG:3 1QJ+m:2 T/FG:3 L6Im:4 6jnNm:3 2jjv8F:3|<+08>-8",
  "2py,0 2em,0|-bdify:1 2bdifx:1|<+03>-3",
  "6fo,0 720,0 8oW,1 7wG,0 7wG,1 720,0 7wG,1|-1wbgHo:1 15tXfY:3 grJm:2 12Ezm:3 s4GG:2 oQTm:3 3mzIW:1 15tu0:4 oRM0:5 12Fs0:4 1AA60:5 omS0:4 x/40:5 oRM0:4 15Di0:5 omS0:4*2 15Yo0:5 ql00:4 15Di0:5 omS0:4 15Di0:5 k980:4 19r00:5 k980:4 1C8g0:5 hrU0:4 1CBku:1 kA0G:6 19q7m:1*3 kA0G:6 1C7nm:1 hsMG:6*2 1C7nm:1 kA0G:6 19q7m:1*2 tOeG:6 xzJW:1 y0qW:6*2 +Hrm:1 x/yG:6 x+Bm:1*4 x/yG:6 +Hrm:1 x/yG:6 x+Bm:1 N5SG:6 1Wuhm:1 x/yG:6 x+Bm:1*2 4rAqG:6 r3Dm:1|CST-8",
  "8rW,0 8oW,0 AZ0,1 9gm,0 9gm,0 AZ0,1 9gm,1 8oW,0 AZ0,0 AZ0,1 9gm,0|-1LvibW:1 BYd90:3 1VWuvm:2 yJHm:3 x/yG:2*2 yJHm:3 yL2G:2 y0qW:4 x/40:5 x/40:4*5 x/40:5 +Ik0:4 x/40:6 x/yG:7 awW0:4 N3hm:5 x/40:4 x/40:5*3 x/40:4 +Ik0:5 15Di0:4 omS0:5*3 17XM0:4 mSo0:5*2 17XM0:4 omS0:5 15Di0:4*2 omS0:5 17XM0:4 mSo0:5*3 17XM0:4 omS0:5 15Di0:4*2 omS0:5 17XM0:4 mSo0:8 6lQrm:7 2p+yW:4 ev6F/:4|<+11>-11",
  "6/m,0 6/m,0 720,0 7wG,0 720,0|-1U3Q9m:1 O97W0:2 HSKVm:3 6pj3m:4|WITA-8",
  "-E0O,0 75e,0 7wG,1 720,0 720,0 7wG,0 720,0|-3h7YFe:1 1csPue:4 15uNf0:2 P2Fm:3 9FeAG:2 J6Zm:5 5lqe0:2 1PfW0:3 FkbCG:2 HoBm:3 gwA0G:2 wfpm:3 Nq2OG:2 Mkbm:3|PST-8",
  "3Rm,0 3X0,0|-1U3Mbm:1 3U3Mbl:1|<+04>-4",
  "1z8,0 2em,1 1mW,0 1mW,0 2em,1|-1QYE58:2 1aTf4e:1 x+Bm:2 17D8G:1 n65m:2 vNCG:1 vgXm:2 +JcG:1 yJHm:2 xgsG:1 x+Bm:2 +JcG:1 vgXm:2 x/yG:1 x+Bm:2*3 x/yG:1 +Hrm:2 x/yG:1 x+Bm:2*5 x/yG:1 +Hrm:2 x/yG:1 x+Bm:2*5 +JcG:1 x+Bm:2 x/yG:1*2 15GKm:3 omS0:4 17XM0:3 mSo0:4*2 17XM0:3 omS0:4 15Di0:3*2 omS0:4 17XM0:3 mSo0:4*3 17XM0:3 omS0:4 15Di0:3*2 omS0:4 17XM0:3 mSo0:4*2 17XM0:3 omS0:4 15Di0:3*3 omS0:4 17XM0:3 mSo0:4*2 17XM0:3 omS0:4 15Di0:3*2 omS0:4 17XM0:3 mSo0:4*2 17XM0:3 omS0:4 15Di0:3*3 omS0:4 17XM0:3 mSo0:4*2 17XM0:3 omS0:4 15Di0:3*2 omS0:4 17XM0:3 mSo0:4*3 17XM0:3 omS0:4 15Di0:3*2|EET-2EEST,M3.5.0/3,M10.5.0/4",
  "570,0 5HW,0 720,1 69m,0 69m,0 720,1 69m,1 5HW,0 69m,0|-1Lvzz0:1 BYy1W:3 1VWuvm:2 yJHm:3 x/yG:2*2 yJHm:3 yL2G:2 y0qW:4 x/40:5 x/40:4*5 x/40:5 +Ik0:4 x/40:6 x/yG:7 awW0:4 N3hm:5 x/40:4 x/40:5*3 x/40:4 +Ik0:5 15Di0:4 omS0:5*3 17XM0:4 mSo0:5*2 17XM0:4 omS0:5 15Di0:4*2 omS0:5 17XM0:4 mSo0:5*3 17XM0:4 omS0:5 15Di0:4*2 omS0:6 17YEG:7 mSo0:4 oSRe/:4|<+07>-7",
  "4sy,0 5HW,0 720,1 69m,0 69m,0 720,1 69m,1 5HW,0 69m,1 69m,0|-1U9ERS:1 JoCVy:3 1VWuvm:2 yJHm:3 x/yG:2*2 yJHm:3 yL2G:2 y0qW:4 x/40:5 x/40:4*5 x/40:5 +Ik0:4 x/40:6 x/yG:7 awW0:4 N3hm:5 x/40:4 x/40:5 IQdG:8 fbL0:7 x/40:6 x/40:7*2 +Ik0:6 15Di0:7 omS0:6*3 17XM0:7 mSo0:6*2 17XM0:7 omS0:6 15Di0:7*2 omS0:6 17XM0:7 mSo0:6*3 17XM0:7 omS0:6 15Di0:7*2 omS0:6 17XM0:7 mSo0:4 6lQrm:7 3HzcG:4 eR3C/:4|<+07>-7",
  "4JA,0 4PG,0 69m,1 5HW,0 5HW,0 69m,1 5HW,1 4PG,0 69m,0 69m,1 5HW,0|-1UJBzA:1 JyAvw:3 1VWuvm:2 yJHm:3 x/yG:2*2 yJHm:3 yL2G:2 y0qW:4 x/40:5 x/40:4*5 x/40:5 +Ik0:4 x/40:6 x/yG:7 awW0:4 N3hm:5 x/40:4 x/40:5*3 x/40:4 +Ik0:5 15Di0:4 omS0:5*3 17XM0:4 mSo0:5*2 17XM0:4 omS0:5 15Di0:4*2 omS0:5 17XM0:4 mSo0:5*3 17XM0:4 omS0:5 15Di0:4*2 omS0:5 17XM0:4 mSo0:8 6lQrm:4 hj0pF:4|<+06>-6",
  "30a,0 2em,0 4PG,0 5HW,1 5HW,0 4PG,0 5HW,1 4PG,1 3X0,0 4PG,0|-1Lvcma:1 BYdTq:2 1VWu1W:3 yJHm:4 x/40:3 yKA0:2 x/yG:3 yJHm:2 yL2G:3 y0qW:5 x/40:6 x/40:5*4 x/40:7 x/yG:8 x/40:7 +Ik0:8 x/40:7 x/40:8 awW0:5 N3hm:7 x/yG:8 x/40:7 x/40:8*3 +Ik0:7 15Di0:8 omS0:7*3 17XM0:8 mSo0:7*2 17XM0:8 omS0:7 15Di0:8*2 omS0:7 17XM0:5 +U/4V:5|<+05>-5",
  "69S,0 6Fs,0 69m,0 720,0 7wG,0 69m,0|-1tSxhS:1 95kNc:2 xahjs:3 48+Vm:4 uN20:2 2jnC4F:2|<+07>-7",
  "6Q0,0 6Q0,0 6bu,0 7wG,0 720,0 720,0 69m,0|-1q0780:1 k5r40:2 HOiK8:3 6tKfe:2 4vTUO:4 3mb/u:2 PjfY8:5 j9BNu:6|WIB-7",
  "7Na,0 7U8,0 7wG,0 7wG,0|-1qA0va:1 73YLS:2 /IKfu:3 23dg40:1 57dC0:3|KST-9",
  "31G,0 3X0,0 2em,0|-1U3MBG:1 1Yb/MG:2 1xTMq/:2|<+03>-3",
  "3ka,0 3X0,0 4PG,0 5HW,1 5HW,0 4PG,0 5HW,1 4PG,1 3X0,0 5HW,0 5HW,1 4PG,0|-1LvdUa:1 BYdJa:2 1VWuvm:3 yJHm:4 x/40:3 yKA0:2 x/yG:3 yJHm:2 yL2G:3 y0qW:5 x/40:6 x/40:5*5 x/40:6 +Ik0:5 x/40:7 x/yG:8 awW0:5 N3hm:6 x/40:5 x/40:6*3 x/40:5 +Ik0:6 15Di0:5 omS0:6*3 17XM0:5 mSo0:6*2 17XM0:5 omS0:6 15Di0:5*2 omS0:6 17XM0:9 aNCLG:2 Q7pdV:2|<+05>-5",
  "3rW,0 3X0,0 4PG,0 5HW,1 5HW,0 4PG,0 5HW,1 4PG,1 5HW,0 5HW,1 4PG,0|-1LvdbW:1 BYdQW:2 1VWuvm:3 yJHm:4 x/40:3 yKA0:2 x/yG:3 yJHm:2 yL2G:3 y0qW:5 x/40:6 x/40:5*5 x/40:6 +Ik0:5 x/40:7 x/yG:5 avdm:8 N3hm:6 x/yG:5 x/40:6 x/40:5*3 +Ik0:6 15Di0:5 omS0:6*3 17XM0:5 mSo0:6*2 17XM0:5 omS0:6 15Di0:5*2 omS0:6 17XM0:8 QbzVG:2 Zv2TV:2|<+05>-5",
  "2lC,0 2em,0|-gvCbC:1 2gvCbB:1|<+03>-3",
  "8N8,0 7wG,0 AZ0,1 9gm,0 9gm,0 AZ0,1 9gm,1 8oW,0 9gm,0|-1v3p98:1 1BF+Ku:3 12zeHW:2 yJHm:3 x/yG:2*2 yJHm:3 yL2G:2 y0qW:4 x/40:5 x/40:4*5 x/40:5 +Ik0:4 x/40:6 x/yG:7 awW0:4 N3hm:5 x/40:4 x/40:5*3 x/40:4 +Ik0:5 15Di0:4 omS0:6 15EaG:7 omS0:6 15Di0:7 omS0:6 17XM0:7 mSo0:6*2 17XM0:7 omS0:6 15Di0:7*2 omS0:6 17XM0:7 mSo0:6*3 17XM0:7 omS0:6 15Di0:7*2 omS0:6 17XM0:7 mSo0:4 6lQrm:7 2glSG:4 f2Kt/:4|<+11>-11",
  "3x9,0 3X0,0 4PG,0 5HW,1 5HW,0 4PG,0 5HW,1|-1Lvdh9:1 BYdW9:2 1VWuvm:3 yJHm:4 x/40:3 yKA0:2 x/yG:3 yJHm:2 yL2G:3 y0qW:5 x/40:6 x/40:5*5 x/40:6 +Ik0:5 x/40:6 x/40:5 1N6nAl:5|<+05>-5",
  "7S8,0 7U8,0 7wG,0 8oW,1 7wG,0 8MO,1 8oW,1|-1qA0+8:1 73YQ0:2 /NH3u:4 58cU0:3 YGtm:4 12bqG:3 r3Dm:4 12bqG:3 rOJm:4 1ETCG:3 fWxm:4 4mZWG:1 278u8:5 fs1m:1 1JkiG:5 hqbm:1 17YEG:5 k8Fm:1 19ruG:5*3 k8Fm:1 1hTSG:4 mRUyO:3 omS0:4 15Di0:3 omS0:4|KST-9",
  "65T,0 65T,0 69m,0 6SW,1 6SW,0 6bu,0 7wG,0 720,0|-21oQnT:1 8JJ80:2 puyZj:3 5evNG:4 AgG40:5 tNce:6 6jmxe:5 14IO0G:7 1fRX7/:7|<+08>-8",
  "90S,0 8oW,0 AZ0,1 9gm,0 9gm,0 AZ0,1 9gm,1 8oW,0 AZ0,0 AZ0,1 9gm,0|-1LvimS:1 BYdJy:3 1VWuvm:2 yJHm:3 x/yG:2*2 yJHm:3 yL2G:2 y0qW:4 x/40:5 x/40:4*5 x/40:5 +Ik0:4 x/40:6 x/yG:7 awW0:4 N3hm:5 x/40:4 x/40:5*3 x/40:4 +Ik0:5 15Di0:4 omS0:5*3 17XM0:4 mSo0:5*2 17XM0:4 omS0:5 15Di0:4*2 omS0:5 17XM0:4 mSo0:5*3 17XM0:4 omS0:5 15Di0:4*2 omS0:5 17XM0:4 mSo0:8 6lQrm:4 hj5CV:4|<+11>-11",
  "77e,0 720,0 7wG,0 7wG,1 720,0|-2BCG/e:1 1EXbbe:2 E/n00:1 1Do80:3 jp9m:1 10dGG:3 11vtm:1 x/yG:3 oQTm:1 15umG:3*3 oQTm:1 o78G:3 1Gl5m:1 no2G:3 16XBm:1*2 no2G:3 yJHm:1 yL2G:3 yJHm:1 x/yG:3*3 yJHm:1 1GRmG:3 eCZm:1 1G6gG:3 eCZm:1 NWbsG:3 yJHm:1 x/yG:3 yJHm:1 73EEG:3 UJlm:1|CST-8",
  "43t,0 4PG,0 69m,1 5HW,0 5HW,0 69m,1 5HW,1 4PG,0|-1Lvdpt:1 BYcmd:3 1VWuvm:2 yJHm:3 x/yG:2*2 yJHm:3 yL2G:2 y0qW:4 x/40:5 x/40:4*5 x/40:5 +Ik0:4 x/40:6 x/yG:7 1N6nAl:7|<+05>-5",
  "2d/,0 2d/,0 2em,0 4PG,1 3X0,0 3X0,0 4PG,1 3X0,1 2em,0 3X0,1 3X0,0|-2fIKN/:1 1JOk00:2 zm79F:4 jJOrm:3 yJHm:4 x/yG:3*2 yJHm:4 yL2G:3 y0qW:5 x/40:6 x/40:5*5 x/40:6 +Ik0:5 x/40:7 x/yG:8 xzJW:9 x+Bm:2 x/yG:9*2 x+Bm:4 x/40:3 x+Bm:4 +JcG:3 1tzFm:3 15Di0:4 onKG:3 15Cpm:4 onKG:3 17WTm:4 mTgG:3*2 17WTm:4 onKG:3 15Cpm:4*2 onKG:3 T+fm:9 fbL0:8 mSo0:4 zkXQF:4|<+04>-4",
  "30u,0 30u,0 3z8,1 34u,0 4PG,1 3X0,0 3z8,1 34u,0|-1bau8u:1 ab4w0:3 1EatVm:2 16C+0:5 p5+8:4 hrU0:5 WJC0:3 10xw8:2 buvm:3 yg8G:2 zIZm:3 Jys4G:2 koRm:3 x/yG:2 yeNm:3 xgsG:2*4 yeNm:3 x/yG:2 yeNm:3 xgsG:2*3 yeNm:3 x/yG:2 yeNm:3 xgsG:2*3 yeNm:3 x/yG:2 yeNm:3 4iHIG:2 yeNm:3 x/yG:2 yeNm:3 xgsG:2*3 yeNm:3 x/yG:2 yeNm:3 xgsG:2*3 yeNm:3 x/yG:2 yeNm:3 xgsG:2*3 yeNm:3 x/yG:2 yeNm:3 xgsG:2 yeNm:3 Sr9d7:3|<+0330>-3:30",
  "5GC,0 4rO,0 5HW,0|-g6UgC:1 1BUpWq:2 1Udh9N:2|<+06>-6",
  "8C3,0 8oW,1 7wG,0 7wG,0|-2QFLkG:3 1nUru0:1 hrU0:2 12w20:1 r460:2 1ESK0:1 fXq0:2*2|JST-9",
  "4+d,0 5HW,0 720,1 69m,0 69m,0 720,1 69m,1 5HW,0 69m,1 69m,0|-1U6h4d:1 Jlf97:3 1VWuvm:2 yJHm:3 x/yG:2*2 yJHm:3 yL2G:2 y0qW:4 x/40:5 x/40:4*5 x/40:5 +Ik0:4 x/40:6 x/yG:7 awW0:4 N3hm:5 x/40:4 x/40:5*3 x/40:4 +Ik0:5 15Di0:4 omS0:5*3 17XM0:4 mSo0:5*2 17XM0:4 omS0:5 ADw0:8 x0gG:7 omS0:6 15Di0:7 omS0:6 17XM0:7 mSo0:6*3 17XM0:7 omS0:6 15Di0:7*2 omS0:6 17XM0:7 mSo0:4 6lQrm:7 2/WMG:4 ejWS/:4|<+07>-7",
  "8P6,0 720,0 7wG,0 9gm,0 AZ0,1 9gm,0 AZ0,1 9gm,1 8oW,0 AZ0,0 AZ0,1 8oW,0|-1U9296:1 Jn+T6:2 1VWuvm:4 yHXG:3 x/yG:4 yJHm:3*2 yL2G:4 y0qW:5 x/40:6 x/40:5*5 x/40:6 +Ik0:5 x/40:7 x/yG:8 awW0:5 N3hm:6 x/40:5 x/40:6*3 x/40:5 +Ik0:6 15Di0:5 omS0:6*3 17XM0:5 mSo0:6*2 17XM0:5 omS0:6 15Di0:5*2 omS0:6 17XM0:5 mSo0:6*3 17XM0:5 omS0:6 15Di0:5*2 omS0:6 17XM0:5 mSo0:9 t/JG:5 5tSQm:8 hj4KF:8|<+10>-10",
  "60m,0 6Fs,0 69m,0 720,0 7wG,0 69m,0|-1tSxYm:1 95kEw:2 xahjs:3 48+Vm:4 uN20:2 2ztmW:3 F7gNm:2 2Rhfx/:2|<+07>-7",
  "7kZ,0 7wG,0 9gm,1 8oW,0 8oW,0 9gm,1 8oW,1 7wG,0 9gm,0 9gm,1 8oW,0|-1OfhYZ:1 EIc+J:3 1VWuvm:2 yJHm:3 x/yG:2*2 yJHm:3 yL2G:2 y0qW:4 x/40:5 x/40:4*5 x/40:5 +Ik0:4 x/40:6 x/yG:7 awW0:4 N3hm:5 x/40:4 x/40:5*3 x/40:4 +Ik0:5 15Di0:4 omS0:5*3 17XM0:4 mSo0:5*2 17XM0:4 omS0:5 15Di0:4*2 omS0:5 17XM0:4 mSo0:5*3 17XM0:4 omS0:5 15Di0:4*2 omS0:5 17XM0:4 mSo0:8 6lQrm:4 hj4KF:4|<+10>-10",
  "7cY,0 720,0 8oW,1 7wG,0 7wG,0 8oW,1 7wG,1 720,0 8oW,0 8oW,1 7wG,0|-1U91MY:1 JnzgY:3 1VWuvm:2 yJHm:3 x/yG:2*2 yJHm:3 yL2G:2 y0qW:4 x/40:5 x/40:4*5 x/40:5 +Ik0:4 x/40:6 x/yG:7 awW0:4 N3hm:5 x/40:4 x/40:5*3 x/40:4 +Ik0:5 15Di0:4 omS0:5*3 17XM0:4 mSo0:5*2 17XM0:4 omS0:5 15Di0:4*2 omS0:5 17XM0:4 mSo0:5*3 17XM0:4 omS0:5 15Di0:4*2 omS0:5 17XM0:4 mSo0:8 6lQrm:4 hj3R/:4|<+09>-9",
  "5el,0 5el,0 5je,0 7wG,0 5je,0|-2fINOl:1 1BE+c0:2 g08Z7:3 5fslO:2 2kPPWF:2|<+0630>-6:30",
  "3ZP,0 3J1,0 3X0,0 5HW,1 4PG,0 4PG,0 5HW,1 4PG,1 3X0,0 5HW,0 5HW,1 4PG,0|-1aeFRP:1 5iwZO:2 KaKj1:4 1VWuvm:3 yJHm:4 x/yG:3*2 yJHm:4 yL2G:3 y0qW:5 x/40:6 x/40:5*5 x/40:6 +Ik0:5 x/40:7 x/yG:8 awW0:5 N3hm:6 x/40:5 x/40:6*3 x/40:5 +Ik0:6 15Di0:5 omS0:6*3 17XM0:5 mSo0:6*2 17XM0:5 omS0:6 15Di0:5*2 omS0:6 17XM0:5 mSo0:6*3 17XM0:5 omS0:6 15Di0:5*2 omS0:6 17XM0:5 mSo0:9 6lQrm:5 hi/w/:5|<+05>-5",
  "2cu,0 2em,0 4PG,1 3X0,0 3X0,0 4PG,1 3X0,1 2em,0 4PG,1 3X0,0|-1LvcMu:1 zm788:3 jJOrm:2 yJHm:3 x/yG:2*2 yJHm:3 yL2G:2 y0qW:4 x/40:5 x/40:4*5 x/40:5 +Ik0:4 x/40:6 x/yG:7 x/40:6 x/40:7*3 x/40:6 x/40:4 2sFzm:5 15Di0:4 omS0:5*2 17XM0:4 mSo0:5*2 17XM0:4 omS0:5 15Di0:4*2 omS0:5 17XM0:4 mSo0:5*3 17XM0:4 omS0:5 15Di0:4*2 omS0:5 17XM0:4 mSo0:5 17XM0:4 nKuYV:4|<+04>-4",
  "-1WG,0 -1hO,0 -uG,1 -1mW,0 -uG,1 -1mW,0 -1mW,0 0,1 -uG,0 0,1 -uG,0 uG,1 0,0 0,1 -uG,0|-2XmkHm:1 qgOyG:6 8PDxm:2 ireG:3 dZG0:2 1B8Vm:3 jAkG:2*2 1B8Vm:3 jVqG:2 1B8Vm:3 jAkG:2 1B8Vm:3 4jao0:4 uN20:5 2uaW0:4 tNm0:5 +Ik0:4 vhQ0:5 10cO0:4*2 tNm0:5 2uaW0:4 tNm0:5 x/40:4 x/40:5 2sGs0:4 x/40:5 vhQ0:4 +Ik0:5 10cO0:4 tNm0:5 x/40:4 x/40:5 vhQ0:4 +Ik0:5 10cO0:4 17XM0:5 WJC0:4 1AVC0:5 xKu0:4 yKA0:5 ql00:4 Dr3m:7 awW0:4 N5SG:5 k980:4 BXPm:7 hrU0:4 KnoG:5 hrU0:4 Dr3m:7 fXq0:4 KnoG:5 hrU0:4 Dr3m:7 fXq0:4 KnoG:5 r460:4 x/40:5 y1im:4 x/40:5 x/40:4*4 +Ik0:5 x/40:4 x/40:5*4 x/40:4 +Ik0:5 x/40:4 x/40:5*5 x/40:4 +Ik0:5 x/40:4 x/40:5*3 x/40:4 x/40:8 T87dG:7 x/40:8 x/40:7*2 +Ik0:8 x/40:7 x/40:8 x/40:9 x/40:10*4 x/40:9 +Ik0:10 x/40:9 x/40:10*2 U0QG:12 T+fm:11 Qic0:9 XIU0:10 x/40:9 x/40:10*2 +Ik0:9 15Di0:10 omS0:9*3 17XM0:10 mSo0:9*2 17XM0:10 omS0:9 15Di0:10*2 omS0:9 17XM0:10 mSo0:9*3 17XM0:10 omS0:9 15Di0:10*2 omS0:9 17XM0:10 mSo0:9*2 17XM0:10 omS0:9 15Di0:10*3 omS0:9 17XM0:10 mSo0:9*2 17XM0:10 omS0:9 15Di0:10*2 omS0:9 17XM0:10 mSo0:9*2 17XM0:10 omS0:9 15Di0:10*3 omS0:9 17XM0:10 mSo0:9*2 17XM0:10 omS0:9 15Di0:10*2 omS0:9 17XM0:10 mSo0:9*3 17XM0:10 omS0:9 15Di0:10*2 SO1l:10|<-01>1<+00>,M3.5.0/0,M10.5.0/1",
  "-3p6,0 -2ws,1 -3p6,0 -2em,1 -3X0,0|-2MUEUw:2 pHPO0:1 wfpm:2 10IAG:1 p4fm:2 LFcMm:4 MduZw:3 1SHNm:4 onKG:3 19q7m:4 hsMG:3 1ERRm:4 fYiG:3 1ERRm:4 2ubOG:3 dDHm:4 1J4WG:3 Ybzm:4 1LOAG:3 Ybzm:4 1NhqG:3 WIJm:4*2 1NhqG:3 Ybzm:4 6/cCG:3 olZm:4 WwR2G:3 x+Bm:4 x/yG:3*2 +Hrm:4 viIG:3 +Hrm:4 x/yG:3 x+Bm:4*4 x/yG:3 +Hrm:4 viIG:3 +Hrm:4 x/yG:3 x+Bm:4*3 r4+G:3 12v9m:4 r4+G:3 15Cpm:4 onKG:3*2 15Cpm:4 r4+G:3 12v9m:4*2 r4+G:3 15Cpm:4 onKG:3*2 15Cpm:4 r4+G:3 12v9m:4*3 r4+G:3 15Cpm:4 onKG:3*2 15Cpm:4 r4+G:3 12v9m:4*2 r4+G:3 15Cpm:4 onKG:3*2 15Cpm:4 hsMG:3 1ERRm:4 fYiG:3*2 1ERRm:4 hsMG:3 1ERRm:4 fYiG:3*5 1ERRm:4 hsMG:3 1ERRm:4 fYiG:3*4 1ERRm:4 hsMG:3 1ERRm:4 fYiG:3*5 1ERRm:4 hsMG:3 1ERRm:4 fYiG:3*4 1ERRm:4 hsMG:3 1ERRm:4 fYiG:3*5 1ERRm:4|AST4ADT,M3.2.0,M11.1.0",
  "-vm,0 -uG,0 0,0 uG,1 0,0 uG,1|-1P+wCG:1 kFPem:2 /2pxW:3 viIG:4 x/40:5 x/40:4*3 x/40:5 +Ik0:4 x/40:5 x/40:4*5 x/40:5 +Ik0:4 x/40:5 x/40:4*5 +Ik0:5 15Di0:4 omS0:5*3 17XM0:4 mSo0:5*2 17XM0:4 omS0:5 15Di0:4*2 omS0:5 17XM0:4 mSo0:5*3 17XM0:4 omS0:5 15Di0:4*2 omS0:5 17XM0:4 mSo0:5*2 17XM0:4 omS0:5 15Di0:4*3 omS0:5 17XM0:4 mSo0:5*2 17XM0:4 omS0:5 15Di0:4*2 omS0:5 17XM0:4 mSo0:5*2 17XM0:4 omS0:5 15Di0:4*3 omS0:5 17XM0:4 mSo0:5*2 17XM0:4 omS0:5 15Di0:4*2 omS0:5 17XM0:4 mSo0:5*3 17XM0:4 omS0:5 15Di0:4*2|WET0WEST,M3.5.0/1,M10.5.0",
  "-1OC,0 -1mW,0 -uG,1 -1mW,0 -uG,0|-1j6LLW:1 vhl60:2 5tj/m:3 uetim:4 1qw0Y/:4|<-01>1",
  "-PO,0 0,0 uG,1 0,0|-1qabke:1 29jaSu:2 x/40:3 x/40:2*3 +Ik0:3 x/40:2 x/40:3*5 x/40:2 +Ik0:3 x/40:2 x/40:3*5 +Ik0:2 15Di0:3 omS0:2*3 17XM0:3 mSo0:2*2 17XM0:3 omS0:2 15Di0:3*2 omS0:2 17XM0:3 mSo0:2*3 17XM0:3 omS0:2 15Di0:3*2 omS0:2 17XM0:3 mSo0:2*2 17XM0:3 omS0:2 15Di0:3*3 omS0:2 17XM0:3 mSo0:2*2 17XM0:3 omS0:2 15Di0:3*2 omS0:2 17XM0:3 mSo0:2*2 17XM0:3 omS0:2 15Di0:3*3 omS0:2 17XM0:3 mSo0:2*2 17XM0:3 omS0:2 15Di0:3*2 omS0:2 17XM0:3 mSo0:2*3 17XM0:3 omS0:2 15Di0:3*2|WET0WEST,M3.5.0/1,M10.5.0",
  "-/O,0 -/O,0 0,1 -uG,0 0,1 -uG,0 -uG,0 uG,1 0,0 uG,1 uG,1 0,0 uG,1|-2Xmkoe:1 qgOau:6 8PDxm:2 ireG:3 dZG0:2 1B8Vm:3 jAkG:2*2 1B8Vm:3 jVqG:2 1B8Vm:3 jAkG:2 1B8Vm:3 4jao0:4 uN20:5 2uaW0:4 tNm0:5 +Ik0:4 vhQ0:5 10cO0:4*2 tNm0:5 2uaW0:4 tNm0:5 x/40:4 x/40:5 2sGs0:4 x/40:5 vhQ0:4 +Ik0:5 10cO0:4 tNm0:5 x/40:4 x/40:5 vhQ0:4 +Ik0:5 10cO0:4 17XM0:5 WJC0:4 1AVC0:5 xKu0:4 yKA0:5 ql00:4 Dr3m:7 awW0:4 N5SG:5 k980:4 BXPm:7 hrU0:4 KnoG:5 hrU0:4 Dr3m:7 fXq0:4 KnoG:5 hrU0:4 Dr3m:7 fXq0:4 KnoG:5 r460:4 x/40:5 y1im:4 x/40:5 x/40:4*4 +Ik0:5 x/40:4 x/40:5*4 x/40:4 +Ik0:5 x/40:4 x/40:5*5 x/40:4 +Ik0:5 x/40:4 x/40:5*3 x/40:4 x/40:8 TARHG:10 vhQ0:8 x/40:9 x/40:8 x/40:9 +Ik0:8 x/40:9 x/40:8 x/40:9 x/yG:11 x/40:12 x/40:11*3 x/40:12 +Ik0:11 x/40:12 x/40:11*5 +Ik0:12 15Di0:11 omS0:12*3 17XM0:11 mSo0:12*2 17XM0:11 omS0:12 15Di0:11*2 omS0:12 17XM0:11 mSo0:12*3 17XM0:11 omS0:12 15Di0:11*2 omS0:12 17XM0:11 mSo0:12*2 17XM0:11 omS0:12 15Di0:11*3 omS0:12 17XM0:11 mSo0:12*2 17XM0:11 omS0:12 15Di0:11*2 omS0:12 17XM0:11 mSo0:12*2 17XM0:11 omS0:12 15Di0:11*3 omS0:12 17XM0:11 mSo0:12*2 17XM0:11 omS0:12 15Di0:11*2 omS0:12 17XM0:11 mSo0:12*3 17XM0:11 omS0:12 15Di0:11*2|WET0WEST,M3.5.0/1,M10.5.0",
  "-1IW,0 0,1 -uG,0 -uG,0 0,1 0,0|-1qdtnW:2 HC9fW:1 1G6gG:2 eCZm:1 1Oh6G:2 Ve7m:1 1Oh6G:2 2XV3m:1 VKoG:2 XawNm:1 y0qW:2 dF2G:1 1J2lm:3 dEA0:4 1Gl+0:3 fXq0:4 1C8g0:3 hrU0:4*3 1ESK0:3 fXq0:4 1ESK0:3 r460:4 12w20:3*2 r460:4 15Di0:3 omS0:4 12w20:3 r460:4 15Di0:3 r460:4 12w20:3*4 r460:4 15Di0:3 r460:4 12w20:3*5 r460:4 15Di0:3 r460:4 12w20:3*4 r460:4 15Di0:3 r460:5|GMT0",
  "-290,0 -1mW,0|-2MUG90:1 4MUG8/:1|<-02>2",
  "-LO,0 -LO,0 0,0|-2MUHye:1 1okxg0:2|GMT0",
  "-3Oy,0 -3Oy,0 -2em,1 -3X0,0 -1mW,1 -2em,0 -2em,1|-2MUEv4:1 flKs0:3 m2lk4:2 vgXm:3 +JcG:2 vgXm:3 10dGG:2 vgXm:3 +JcG:2*3 Ve7m:3 1BstqG:5 mRvm:4 17WTm:5 kA0G:4 19q7m:5 kA0G:2 17XM0:3 mTgG:2 17WTm:3*3 mTgG:2 19q7m:3 kA0G:2 19q7m:3 mTgG:2 17WTm:3*4 mTgG:2 19q7m:3 mTgG:2 17WTm:3*4 mTgG:2 17YEG:3 kA0G:2 1C7nm:3 hsMG:2 1C7nm:3 kA0G:2 19q7m:3*4 kA0G:2 1C7nm:3 kA0G:2 19q7m:3*2 kA0G:5 pVCuV:5|<-03>3",
  "87i,0 7wG,0 9Ee,1 8MO,0 8MO,0|-2CwNJi:1 7+tXS:4 XFCOO:2 RMo0:3 kc8G0:2 ShA0:3 x/40:2 x/40:3 +Ik0:2 vhQ0:3 pwH00:2 dEA0:3 1Gl+0:2 fXq0:3 1ESK0:2*3 hrU0:3 1ESK0:2 fXq0:3*5 1ESK0:2 hrU0:3 1ESK0:2 fXq0:3*3 1ESK0:2 k980:3 17XM0:2 mSo0:3 19r00:2*2 k980:3 19r00:2*2 fXq0:3 1ESK0:2 mSo0:3 17XM0:2 hrU0:3 1ESK0:2 k980:3 19r00:2 mSo0:3 17XM0:2 omS0:3 15Di0:2*3 omS0:3 17XM0:2 mSo0:3*2 17XM0:2 omS0:3 15Di0:2*2 omS0:3 17XM0:2 mSo0:3 17XM0:2 omS0:3 15Di0:2 mSo0:3 17XM0:2 r460:3 x/40:2 x/40:3*4 +Ik0:2 x/40:3 x/40:2*5 x/40:3 +Ik0:2 x/40:3 x/40:2*5 +Ik0:3 x/40:2 x/40:3*5 +Ik0:2 x/40:3 x/40:2*5 x/40:3 +Ik0:2 x/40:3 x/40:2*2|ACST-9:30ACDT,M10.1.0,M4.1.0/3",
  "8zu,0 9gm,1 8oW,0 8oW,0|-2D4c3u:3 fOIDu:1 RMo0:2 kc8G0:1 ShA0:2 x/40:1 x/40:2 +Ik0:1 vhQ0:2 pwH00:1 dEA0:2 XFB40:1 fXq0:2 1ESK0:1*2 fXq0:2|AEST-10",
  "8IS,0 8oW,0 7wG,0 9Ee,1 8MO,0 8MO,0|-2CwNUS:1 2xXry:2 53LsG:5 XFCOO:3 RMo0:4 kc8G0:3 ShA0:4 x/40:3 x/40:4 +Ik0:3 vhQ0:4 pwH00:3 dEA0:4 1Gl+0:3 fXq0:4 1ESK0:3*3 hrU0:4 1ESK0:3 fXq0:4*5 1ESK0:3 r460:4 15Di0:3 fXq0:4 1ESK0:3*3 k980:4 17XM0:3 mSo0:4 19r00:3*2 k980:4 19r00:3 fXq0:4 1ESK0:3*3 hrU0:4 1ESK0:3 fXq0:4*2 1ESK0:3 omS0:4 15Di0:3*3 omS0:4 17XM0:3 mSo0:4*2 17XM0:3 omS0:4 15Di0:3*2 omS0:4 17XM0:3 mSo0:4 17XM0:3 omS0:4 15Di0:3 mSo0:4 17XM0:3 r460:4 x/40:3 x/40:4*4 +Ik0:3 x/40:4 x/40:3*5 x/40:4 +Ik0:3 x/40:4 x/40:3*5 +Ik0:4 x/40:3 x/40:4*5 +Ik0:3 x/40:4 x/40:3*5 x/40:4 +Ik0:3 x/40:4 x/40:3*2|ACST-9:30ACDT,M10.1.0,M4.1.0/3",
  "8t4,0 9gm,1 8oW,0 8oW,0|-2CwO34:3 fE4D4:1 RMo0:2 kc8G0:1 ShA0:2 x/40:1 x/40:2 +Ik0:1 vhQ0:2 pwH00:1 dEA0:2 1Gl+0:1 fXq0:2 1ESK0:1*3 hrU0:2 1ESK0:1 fXq0:2*5 1ESK0:1 r460:2 15Di0:1 fXq0:2 1ESK0:1*3 k980:2 17XM0:1 mSo0:2 19r00:1*2 k980:2 19r00:1 fXq0:2 1ESK0:1*3 hrU0:2 1ESK0:1 fXq0:2*2 1ESK0:1 omS0:2 15Di0:1*3 omS0:2 17XM0:1 mSo0:2 omS0:1 15Di0:2 17XM0:1 omS0:2 15Di0:1*2 omS0:2 17XM0:1 mSo0:2 17XM0:1 omS0:2 15Di0:1 mSo0:2 17XM0:1 r460:2 x/40:1 x/40:2*4 +Ik0:1 x/40:2 x/40:1*5 x/40:2 +Ik0:1 x/40:2 x/40:1*5 +Ik0:2 x/40:1 x/40:2*5 +Ik0:1 x/40:2 x/40:1*5 x/40:2 +Ik0:1 x/40:2 x/40:1*2|AEST-10AEDT,M10.1.0,M4.1.0/3",
  "8eS,0 9gm,1 8oW,0 8oW,0|-2BqVyS:3 dftUS:1 vhQ0:2 17XM0:1 fXq0:2 1ESK0:1 fXq0:2 gz6+0:1 ShA0:2 x/40:1 x/40:2 +Ik0:1 vhQ0:2 iEsE0:1 x/40:2 15Di0:1 hrU0:2 1C8g0:1*2 k980:2 1C8g0:1 dEA0:2 1Gl+0:1 fXq0:2 1ESK0:1*3 hrU0:2 1ESK0:1 fXq0:2*5 1ESK0:1 omS0:2 17XM0:1 mSo0:2 17XM0:1 fXq0:2 1ESK0:1*2 fXq0:2 1C8g0:1 mSo0:2 19r00:1*2 k980:2 19r00:1*2 omS0:2 +Ik0:1 vhQ0:2*4 +Ik0:1 x/40:2 +Ik0:1 vhQ0:2*4 omS0:1 15Di0:2 10cO0:1 vhQ0:2 +Ik0:1*4 x/40:2 x/40:1 vhQ0:2 10cO0:1 x/40:2 x/40:1*4 x/40:2 +Ik0:1 x/40:2 x/40:1*5 x/40:2 +Ik0:1 x/40:2 x/40:1*5 +Ik0:2 x/40:1 x/40:2*5 +Ik0:1 x/40:2 x/40:1*5 x/40:2 +Ik0:1 x/40:2 x/40:1*2|AEST-10AEDT,M10.1.0,M4.1.0/3",
  "7ge,0 7wG,0 9Ee,1 8MO,0 8MO,0|-2CwMse:1 7+t4O:4 XFCOO:2 RMo0:3 kc8G0:2 ShA0:3 x/40:2 x/40:3 +Ik0:2 vhQ0:3|ACST-9:30",
  "7ZG,0 8aS,1 7iC,0 7iC,0|-2BMVLG:3 dgCba:1 RMo0:2 kc8G0:1 ShA0:2 x/40:1 x/40:2 xQ9W0:1 fXq0:2 GIqe0:1 fXq0:2 EVTq0:1 Ycs0:2 RmVK0:1 awW0:2 17XM0:1 omS0:2 15Di0:1 omS0:2 sCQJh:2|<+0845>-8:45",
  "8ki,0 9gm,1 8oW,0 8oW,0|-2D4bqi:3 fOH+i:1 RMo0:2 kc8G0:1 ShA0:2 x/40:1 x/40:2 +Ik0:1 vhQ0:2 pwH00:1 dEA0:2 XFB40:1 fXq0:2 1ESK0:1*3 hrU0:2 1ESK0:1 fXq0:2|AEST-10",
  "9Ka,0 8oW,0 A6u,1 9Ee,0 9gm,1|-2CwOWa:1 2Xv+y4:3 1ETeO:2 hqbm:3 1ETCG:2 fWxm:3*3 1ETCG:4 k8hu:3 17Xo8:4 mSLu:3 19rS8:4*2 k8hu:3 19rS8:4 fXNu:3 1ESm8:4*3 hr1u:3 1ESm8:4 fXNu:3*2 1ESm8:4 ol/u:3 15E88:4*3 ol/u:3 17Xo8:4 mSLu:3 omu8:4 15DFu:3 17Xo8:4 ol/u:3 15E88:4*2 ol/u:3 17Xo8:4 mSLu:3 17Xo8:4 ol/u:3 15E88:4 mSLu:3 17Xo8:4 r3fu:3 x/W8:4 x+du:3*4 +JA8:4 x+du:3 x/W8:4*5 x+du:3 +JA8:4 x+du:3 x/W8:4*5 +IHu:3 x/W8:4 x+du:3*5 +JA8:4 x+du:3 x/W8:4*5 x+du:3 +JA8:4 x+du:3 x/W8:4*2 ZRM7:4|<+1030>-10:30<+11>-11,M10.1.0,M4.1.0",
  "8Ve,0 9gm,1 8oW,0 8oW,0|-2CwNhe:3 fE3re:1 RMo0:2 kc8G0:1 ShA0:2 x/40:1 x/40:2 +Ik0:1 vhQ0:2 pwH00:1 dEA0:2 1Gl+0:1 fXq0:2 1ESK0:1*3 hrU0:2 1ESK0:1 fXq0:2*5 1ESK0:1 hrU0:2 1ESK0:1 fXq0:2*3 1ESK0:1 k980:2 17XM0:1 mSo0:2 17XM0:1 omS0:2 19r00:1 k980:2*2 19r00:1 fXq0:2 1ESK0:1*2 hrU0:2 1ESK0:1 fXq0:2 1ESK0:1 mSo0:2 17XM0:1 omS0:2 15Di0:1*3 omS0:2 17XM0:1 mSo0:2 omS0:1 15Di0:2 17XM0:1 omS0:2 15Di0:1*2 omS0:2 17XM0:1 mSo0:2 17XM0:1 omS0:2 15Di0:1 mSo0:2 17XM0:1 r460:2 x/40:1 x/40:2*4 +Ik0:1 x/40:2 x/40:1*5 x/40:2 +Ik0:1 x/40:2 x/40:1*5 +Ik0:2 x/40:1 x/40:2*5 +Ik0:1 x/40:2 x/40:1*5 x/40:2 +Ik0:1 x/40:2 x/40:1*2|AEST-10AEDT,M10.1.0,M4.1.0/3",
  "6oS,0 7wG,1 720,0 720,0|-2BMUaS:3 dgCUy:1 RMo0:2 kc8G0:1 ShA0:2 x/40:1 x/40:2 xQ9W0:1 fXq0:2 GIqe0:1 fXq0:2 EVTq0:1 Ycs0:2 RmVK0:1 awW0:2 17XM0:1 omS0:2 15Di0:1 omS0:2|AWST-8",
  "uG,0 1mW,1 1mW,1 uG,0|-1ay+YW:1 oSEG:0 10zEW:2 omS0:3 15Di0:2 omS0:3 eXDe0:2 4tTc0:3 mSo0:2 +Ik0:3 x/40:2 x/40:3 x/40:2 t2g0:3 xLYC0:2 vhQ0:3 +Ik0:2 x/40:3 x/40:2 x/40:3 +Ik0:2 vhQ0:3 x/40:2 x/40:3*3 x/40:2 +Ik0:3 x/40:2 x/40:3*5 x/40:2 +Ik0:3 x/40:2 x/40:3*5 +Ik0:2 15Di0:3 omS0:2*3 17XM0:3 mSo0:2*2 17XM0:3 omS0:2 15Di0:3*2 omS0:2 17XM0:3 mSo0:2*3 17XM0:3 omS0:2 15Di0:3*2 omS0:2 17XM0:3 mSo0:2*2 17XM0:3 omS0:2 15Di0:3*3 omS0:2 17XM0:3 mSo0:2*2 17XM0:3 omS0:2 15Di0:3*2 omS0:2 17XM0:3 mSo0:2*2 17XM0:3 omS0:2 15Di0:3*3 omS0:2 17XM0:3 mSo0:2*2 17XM0:3 omS0:2 15Di0:3*2 omS0:2 17XM0:3 mSo0:2*3 17XM0:3 omS0:2 15Di0:3*2|CET-1CEST,M3.5.0,M10.5.0/3",
  "-5HW,0 -4PG,1 -4PG,1 -4PG,1 -5HW,0|-1XMTE0:1 15Cpm:0 onKG:1 15Cpm:0 fxYCG:2 6clNm:3 FHM0:0 ebrqG:1 x+Bm:0 x/yG:1*4 +Hrm:0 x/yG:1 x+Bm:0*2 N5SG:1 1Wuhm:0 dF2G:1 1Gl5m:0 x/yG:1 +Hrm:0 viIG:1 +Hrm:0 x/yG:1 x+Bm:0*4 x/yG:1 +Hrm:0 viIG:1 +Hrm:0 x/yG:1 x+Bm:0*3 r4+G:1 12v9m:0 r4+G:1 15Cpm:0 onKG:1*2 15Cpm:0 r4+G:1 12v9m:0*2 r4+G:1 15Cpm:0 onKG:1*2 15Cpm:0 r4+G:1 12v9m:0*3 r4+G:1 15Cpm:0 onKG:1*2 15Cpm:0 r4+G:1 12v9m:0*2 r4+G:1 15Cpm:0 onKG:1*2 15Cpm:0 hsMG:1 1ERRm:0 fYiG:1*2 1ERRm:0 hsMG:1 1ERRm:0 fYiG:1*5 1ERRm:0 hsMG:1 1ERRm:0 fYiG:1*4 1ERRm:0 hsMG:1 1ERRm:0 fYiG:1*5 1ERRm:0 hsMG:1 1ERRm:0 fYiG:1*4 1ERRm:0 hsMG:1 1ERRm:0 fYiG:1*5 1ERRm:0|CST6CDT,M3.2.0,M11.1.0",
  "1mW,0 2em,1 2em,1 1mW,0|Df6EG:1 vhQ0:0 +Ik0:1 x/40:0 x/40:1 x/40:0 +Ik0:1 vhQ0:0 x/40:1 x/40:0*3 x/40:1 +Ik0:0 x/40:1 x/40:0*5 x/40:1 +Ik0:0 x/40:1 x/40:0*5 +Ik0:1 15Di0:0 omS0:1*3 17XM0:0 mSo0:1*2 17XM0:0 omS0:1 15Di0:0*2 omS0:1 17XM0:0 mSo0:1*3 17XM0:0 omS0:1 15Di0:0*2 omS0:1 17XM0:0 mSo0:1*2 17XM0:0 omS0:1 15Di0:0*3 omS0:1 17XM0:0 mSo0:1*2 17XM0:0 omS0:1 15Di0:0*2 omS0:1 17XM0:0 mSo0:1*2 17XM0:0 omS0:1 15Di0:0*3 omS0:1 17XM0:0 mSo0:1*2 17XM0:0 omS0:1 15Di0:0*2 omS0:1 17XM0:0 mSo0:1*3 17XM0:0 omS0:1 15Di0:0*2|EET-2EEST,M3.5.0/3,M10.5.0/4",
  "-4PG,0||EST5",
  "-4PG,0 -3X0,1 -3X0,1 -3X0,1 -4PG,0|-1XMU6G:1 15Cpm:0 onKG:1 15Cpm:0 fxYCG:2 6cmG0:3 FGTm:0 ebrqG:1 x+Bm:0 x/yG:1*4 +Hrm:0 x/yG:1 x+Bm:0*2 N5SG:1 1Wuhm:0 dF2G:1 1Gl5m:0 x/yG:1 +Hrm:0 viIG:1 +Hrm:0 x/yG:1 x+Bm:0*4 x/yG:1 +Hrm:0 viIG:1 +Hrm:0 x/yG:1 x+Bm:0*3 r4+G:1 12v9m:0 r4+G:1 15Cpm:0 onKG:1*2 15Cpm:0 r4+G:1 12v9m:0*2 r4+G:1 15Cpm:0 onKG:1*2 15Cpm:0 r4+G:1 12v9m:0*3 r4+G:1 15Cpm:0 onKG:1*2 15Cpm:0 r4+G:1 12v9m:0*2 r4+G:1 15Cpm:0 onKG:1*2 15Cpm:0 hsMG:1 1ERRm:0 fYiG:1*2 1ERRm:0 hsMG:1 1ERRm:0 fYiG:1*5 1ERRm:0 hsMG:1 1ERRm:0 fYiG:1*4 1ERRm:0 hsMG:1 1ERRm:0 fYiG:1*5 1ERRm:0 hsMG:1 1ERRm:0 fYiG:1*4 1ERRm:0 hsMG:1 1ERRm:0 fYiG:1*5 1ERRm:0|EST5EDT,M3.2.0,M11.1.0",
  "0,0||GMT0",
  "-uG,0||<-01>1",
  "-8oW,0||<-10>10",
  "-9gm,0||<-11>11",
  "-AZ0,0||<-12>12",
  "-1mW,0||<-02>2",
  "-2em,0||<-03>3",
  "-3X0,0||<-04>4",
  "-4PG,0||<-05>5",
  "-5HW,0||<-06>6",
  "-69m,0||<-07>7",
  "-720,0||<-08>8",
  "-7wG,0||<-09>9",
  "uG,0||<+01>-1",
  "8oW,0||<+10>-10",
  "9gm,0||<+11>-11",
  "AZ0,0||<+12>-12",
  "BRG,0||<+13>-13",
  "CJW,0||<+14>-14",
  "1mW,0||<+02>-2",
  "2em,0||<+03>-3",
  "3X0,0||<+04>-4",
  "4PG,0||<+05>-5",
  "5HW,0||<+06>-6",
  "69m,0||<+07>-7",
  "720,0||<+08>-8",
  "7wG,0||<+09>-9",
  "0,0||UTC0",
  "IK,0 1Aa,1 IK,0 1Aa,1 IK,0 Im,0 1B0,1 1B0,1 uG,0 1mW,1 1mW,1 1mW,1 uG,0|-3zxQwK:2 2O+Ts0:1 oQTm:2 10+6m:3 omS0:4 10cO0:3 x/40:4 +Ik0:3 vhQ0:4*3 xf+0:3 10cO0:4 1Do80:3 gC00:4 vhQ0:3 +Ik0:4 1G5o0:3 duM0:4 19Vw0:3 kUE0:4 19r00:3 k980:4 1AVC0:3 loc0:4 18We0:3 lTW0:4 18rk0:3 l8Q0:4 19Aq0:3 kpK0:4 1C8g0:3 hrU0:4 1AA60:3 m7i0:4 18BY0:3 loc0:4 18We0:3 lTW0:4 19Aq0:3 kpK0:4 1Bpa0:3 D97G:7 V1SK:5 19r00:6 k980:5 1AA60:6 m7i0:5 18pzW:10 4efZ0:8 mSo0:9 +Ik0:8 x/40:9 x/40:8 x/40:9 t2g0:8 xLYC0:11 vhQ0:12 +Ik0:11 x/40:12 x/40:11 x/40:12 +Ik0:11 vhQ0:12 x/40:11 x/40:12*3 x/40:11 +Ik0:12 x/40:11 x/40:12*5 x/40:11 +Ik0:12 x/40:11 x/40:12*5 +Ik0:11 15Di0:12 omS0:11*3 17XM0:12 mSo0:11*2 17XM0:12 omS0:11 15Di0:12*2 omS0:11 17XM0:12 mSo0:11*3 17XM0:12 omS0:11 15Di0:12*2 omS0:11 17XM0:12 mSo0:11*2 17XM0:12 omS0:11 15Di0:12*3 omS0:11 17XM0:12 mSo0:11*2 17XM0:12 omS0:11 15Di0:12*2 omS0:11 17XM0:12 mSo0:11*2 17XM0:12 omS0:11 15Di0:12*3 omS0:11 17XM0:12 mSo0:11*2 17XM0:12 omS0:11 15Di0:12*2 omS0:11 17XM0:12 mSo0:11*3 17XM0:12 omS0:11 15Di0:12*2|CET-1CEST,M3.5.0,M10.5.0/3",
  "5i,0 0,0 uG,0 1mW,1 uG,0|-21oKni:1 1M2oTi:2 18QjCG:3 x/40:4 x/40:3*5 +Ik0:4 x/40:3 x/40:4*5 +Ik0:3 15Di0:4 omS0:3*3 17XM0:4 mSo0:3*2 17XM0:4 omS0:3 15Di0:4*2 omS0:3 17XM0:4 mSo0:3*3 17XM0:4 omS0:3 15Di0:4*2 omS0:3 17XM0:4 mSo0:3*2 17XM0:4 omS0:3 15Di0:4*3 omS0:3 17XM0:4 mSo0:3*2 17XM0:4 omS0:3 15Di0:4*2 omS0:3 17XM0:4 mSo0:3*2 17XM0:4 omS0:3 15Di0:4*3 omS0:3 17XM0:4 mSo0:3*2 17XM0:4 omS0:3 15Di0:4*2 omS0:3 17XM0:4 mSo0:3*3 17XM0:4 omS0:3 15Di0:4*2|CET-1CEST,M3.5.0,M10.5.0/3",
  "2qC,0 2em,0 4PG,1 3X0,0 3X0,0 4PG,1 3X0,1 2em,0 3X0,0|-1LvxgC:1 BYyNS:3 1VWuvm:2 yJHm:3 x/yG:2*2 yJHm:3 yL2G:2 y0qW:4 x/40:5 x/40:4*4 x/40:6 x/yG:7 x/40:6 +Ik0:7 x/40:4 1tzFm:6 x/yG:7 x/40:6 x/40:7*3 +Ik0:6 15Di0:7 omS0:6*3 17XM0:7 mSo0:6*2 17XM0:7 omS0:6 15Di0:7*2 omS0:6 17XM0:7 mSo0:6*3 17XM0:7 omS0:6 15Di0:7*2 omS0:6 17XM0:7 mSo0:4 6lQrm:7 2glSG:4 f2EkF:4|<+04>-4",
  "1Oy,0 1Oy,0 2em,1 1mW,0 uG,0 1mW,1 2em,1 1mW,0 2em,1 1mW,0|-2Bm6Uy:1 dG8ay:3 T/CXW:2 ISNm:3 GAxGG:2 7aHm:5 2rgB0:4 mm7W:5 zylm:4 yL2G:3 FW3Jm:2 eslm:3 gDLGG:6 1B9O0:7 jBcW:6 x/40:7 vhQ0:6 w0W0:7 zze0:6 viIG:3 +N/W:2 xYy0:3 yzTm:2 xJ/m:3 y2b0:8 x/40:9 x/40:8*3 +Ik0:9 x/40:8 x/40:9*5 x/40:8 +Ik0:9 x/40:8 x/40:9*5 +Ik0:8 15Di0:9 omS0:8*3 17XM0:9 mSo0:8*2 17XM0:9 omS0:8 15Di0:9*2 omS0:8 17XM0:9 mSo0:8*3 17XM0:9 omS0:8 15Di0:9*2 omS0:8 17XM0:9 mSo0:8*2 17XM0:9 omS0:8 15Di0:9*3 omS0:8 17XM0:9 mSo0:8*2 17XM0:9 omS0:8 15Di0:9*2 omS0:8 17XM0:9 mSo0:8*2 17XM0:9 omS0:8 15Di0:9*3 omS0:8 17XM0:9 mSo0:8*2 17XM0:9 omS0:8 15Di0:9*2 omS0:8 17XM0:9 mSo0:8*3 17XM0:9 omS0:8 15Di0:9*2|EET-2EEST,M3.5.0/3,M10.5.0/4"]

end Autoresponder.Time.Table
