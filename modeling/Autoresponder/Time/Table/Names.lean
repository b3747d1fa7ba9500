import Autoresponder.Time.Table.Part1
import Autoresponder.Time.Table.Part2
import Autoresponder.Time.Table.Part3
import Autoresponder.Time.Table.Part4
import Autoresponder.Time.Table.Part5
import Autoresponder.Time.Table.Part6

/-!
# The zone table

Every zone name with the number of its history, and the histories themselves. Names that
share a history (links, and the same zone under an older name) share a number. Files of the
zone directory that hold no zone are listed apart.
-/

namespace Autoresponder.Time.Table

/-- Zone names with the numbers of their histories, as `name:number` items separated by
blanks, a few to a line. -/
def names : List String := [
  "Africa/Abidjan:0 Africa/Accra:1 Africa/Addis_Ababa:2 Africa/Algiers:3 Africa/Asmara:4",
  "Africa/Asmera:4 Africa/Bamako:5 Africa/Bangui:6 Africa/Banjul:7 Africa/Bissau:8",
  "Africa/Blantyre:9 Africa/Brazzaville:10 Africa/Bujumbura:11 Africa/Cairo:12",
  "Africa/Casablanca:13 Africa/Ceuta:14 Africa/Conakry:15 Africa/Dakar:16",
  "Africa/Dar_es_Salaam:17 Africa/Djibouti:18 Africa/Douala:19 Africa/El_Aaiun:20",
  "Africa/Freetown:21 Africa/Gaborone:22 Africa/Harare:23 Africa/Johannesburg:24",
  "Africa/Juba:25 Africa/Kampala:26 Africa/Khartoum:27 Africa/Kigali:28 Africa/Kinshasa:29",
  "Africa/Lagos:30 Africa/Libreville:31 Africa/Lome:32 Africa/Luanda:33 Africa/Lubumbashi:34",
  "Africa/Lusaka:35 Africa/Malabo:36 Africa/Maputo:37 Africa/Maseru:38 Africa/Mbabane:39",
  "Africa/Mogadishu:40 Africa/Monrovia:41 Africa/Nairobi:42 Africa/Ndjamena:43",
  "Africa/Niamey:44 Africa/Nouakchott:45 Africa/Ouagadougou:46 Africa/Porto-Novo:47",
  "Africa/Sao_Tome:48 Africa/Timbuktu:5 Africa/Tripoli:49 Africa/Tunis:50 Africa/Windhoek:51",
  "America/Adak:52 America/Anchorage:53 America/Anguilla:54 America/Antigua:55",
  "America/Araguaina:56 America/Argentina/Buenos_Aires:57 America/Argentina/Catamarca:58",
  "America/Argentina/ComodRivadavia:58 America/Argentina/Cordoba:59",
  "America/Argentina/Jujuy:60 America/Argentina/La_Rioja:61 America/Argentina/Mendoza:62",
  "America/Argentina/Rio_Gallegos:63 America/Argentina/Salta:64",
  "America/Argentina/San_Juan:65 America/Argentina/San_Luis:66 America/Argentina/Tucuman:67",
  "America/Argentina/Ushuaia:68 America/Aruba:69 America/Asuncion:70 America/Atikokan:71",
  "America/Atka:52 America/Bahia:72 America/Bahia_Banderas:73 America/Barbados:74",
  "America/Belem:75 America/Belize:76 America/Blanc-Sablon:77 America/Boa_Vista:78",
  "America/Bogota:79 America/Boise:80 America/Buenos_Aires:57 America/Cambridge_Bay:81",
  "America/Campo_Grande:82 America/Cancun:83 America/Caracas:84 America/Catamarca:58",
  "America/Cayenne:85 America/Cayman:86 America/Chicago:87 America/Chihuahua:88",
  "America/Ciudad_Juarez:89 America/Coral_Harbour:71 America/Cordoba:59",
  "America/Costa_Rica:90 America/Coyhaique:91 America/Creston:92 America/Cuiaba:93",
  "America/Curacao:94 America/Danmarkshavn:95 America/Dawson:96 America/Dawson_Creek:97",
  "America/Denver:98 America/Detroit:99 America/Dominica:100 America/Edmonton:101",
  "America/Eirunepe:102 America/El_Salvador:103 America/Ensenada:104 America/Fort_Nelson:105",
  "America/Fort_Wayne:118 America/Fortaleza:106 America/Glace_Bay:107 America/Godthab:159",
  "America/Goose_Bay:108 America/Grand_Turk:109 America/Grenada:110 America/Guadeloupe:111",
  "America/Guatemala:112 America/Guayaquil:113 America/Guyana:114 America/Halifax:115",
  "America/Havana:116 America/Hermosillo:117 America/Indiana/Indianapolis:118",
  "America/Indiana/Knox:119 America/Indiana/Marengo:120 America/Indiana/Petersburg:121",
  "America/Indiana/Tell_City:122 America/Indiana/Vevay:123 America/Indiana/Vincennes:124",
  "America/Indiana/Winamac:125 America/Indianapolis:118 America/Inuvik:126",
  "America/Iqaluit:127 America/Jamaica:128 America/Jujuy:60 America/Juneau:129",
  "America/Kentucky/Louisville:130 America/Kentucky/Monticello:131 America/Knox_IN:119",
  "America/Kralendijk:94 America/La_Paz:132 America/Lima:133 America/Los_Angeles:134",
  "America/Louisville:130 America/Lower_Princes:94 America/Maceio:135 America/Managua:136",
  "America/Manaus:137 America/Marigot:138 America/Martinique:139 America/Matamoros:140",
  "America/Mazatlan:141 America/Mendoza:62 America/Menominee:142 America/Merida:143",
  "America/Metlakatla:144 America/Mexico_City:145 America/Miquelon:146 America/Moncton:147",
  "America/Monterrey:148 America/Montevideo:149 America/Montreal:150 America/Montserrat:151",
  "America/Nassau:152 America/New_York:153 America/Nipigon:150 America/Nome:154",
  "America/Noronha:155 America/North_Dakota/Beulah:156 America/North_Dakota/Center:157",
  "America/North_Dakota/New_Salem:158 America/Nuuk:159 America/Ojinaga:160",
  "America/Panama:161 America/Pangnirtung:127 America/Paramaribo:162 America/Phoenix:163",
  "America/Port-au-Prince:164 America/Port_of_Spain:138 America/Porto_Acre:165",
  "America/Porto_Velho:166 America/Puerto_Rico:167 America/Punta_Arenas:168",
  "America/Rainy_River:169 America/Rankin_Inlet:170 America/Recife:171 America/Regina:172",
  "America/Resolute:173 America/Rio_Branco:165 America/Rosario:59 America/Santa_Isabel:104",
  "America/Santarem:174 America/Santiago:175 America/Santo_Domingo:176 America/Sao_Paulo:177",
  "America/Scoresbysund:178 America/Shiprock:98 America/Sitka:179 America/St_Barthelemy:138",
  "America/St_Johns:180 America/St_Kitts:181 America/St_Lucia:182 America/St_Thomas:183",
  "America/St_Vincent:184 America/Swift_Current:185 America/Tegucigalpa:186",
  "America/Thule:187 America/Thunder_Bay:150 America/Tijuana:104 America/Toronto:150",
  "America/Tortola:188 America/Vancouver:189 America/Virgin:183 America/Whitehorse:190",
  "America/Winnipeg:169 America/Yakutat:191 America/Yellowknife:101 Antarctica/Casey:192",
  "Antarctica/Davis:193 Antarctica/DumontDUrville:194 Antarctica/Macquarie:195",
  "Antarctica/Mawson:196 Antarctica/McMurdo:197 Antarctica/Palmer:198 Antarctica/Rothera:199",
  "Antarctica/South_Pole:197 Antarctica/Syowa:200 Antarctica/Troll:201 Antarctica/Vostok:202",
  "Arctic/Longyearbyen:203 Asia/Aden:204 Asia/Almaty:205 Asia/Amman:206 Asia/Anadyr:207",
  "Asia/Aqtau:208 Asia/Aqtobe:209 Asia/Ashgabat:210 Asia/Ashkhabad:210 Asia/Atyrau:211",
  "Asia/Baghdad:212 Asia/Bahrain:213 Asia/Baku:214 Asia/Bangkok:215 Asia/Barnaul:216",
  "Asia/Beirut:217 Asia/Bishkek:218 Asia/Brunei:219 Asia/Calcutta:246 Asia/Chita:220",
  "Asia/Choibalsan:221 Asia/Chongqing:222 Asia/Chungking:222 Asia/Colombo:223 Asia/Dacca:225",
  "Asia/Damascus:224 Asia/Dhaka:225 Asia/Dili:226 Asia/Dubai:227 Asia/Dushanbe:228",
  "Asia/Famagusta:229 Asia/Gaza:230 Asia/Harbin:222 Asia/Hebron:231 Asia/Ho_Chi_Minh:232",
  "Asia/Hong_Kong:233 Asia/Hovd:234 Asia/Irkutsk:235 Asia/Istanbul:236 Asia/Jakarta:237",
  "Asia/Jayapura:238 Asia/Jerusalem:239 Asia/Kabul:240 Asia/Kamchatka:241 Asia/Karachi:242",
  "Asia/Kashgar:243 Asia/Kathmandu:244 Asia/Katmandu:244 Asia/Khandyga:245 Asia/Kolkata:246",
  "Asia/Krasnoyarsk:247 Asia/Kuala_Lumpur:248 Asia/Kuching:249 Asia/Kuwait:250",
  "Asia/Macao:251 Asia/Macau:251 Asia/Magadan:252 Asia/Makassar:253 Asia/Manila:254",
  "Asia/Muscat:255 Asia/Nicosia:256 Asia/Novokuznetsk:257 Asia/Novosibirsk:258 Asia/Omsk:259",
  "Asia/Oral:260 Asia/Phnom_Penh:261 Asia/Pontianak:262 Asia/Pyongyang:263 Asia/Qatar:264",
  "Asia/Qostanay:265 Asia/Qyzylorda:266 Asia/Rangoon:284 Asia/Riyadh:267 Asia/Saigon:232",
  "Asia/Sakhalin:268 Asia/Samarkand:269 Asia/Seoul:270 Asia/Shanghai:222 Asia/Singapore:271",
  "Asia/Srednekolymsk:272 Asia/Taipei:273 Asia/Tashkent:274 Asia/Tbilisi:275 Asia/Tehran:276",
  "Asia/Tel_Aviv:239 Asia/Thimbu:277 Asia/Thimphu:277 Asia/Tokyo:278 Asia/Tomsk:279",
  "Asia/Ujung_Pandang:253 Asia/Ulaanbaatar:221 Asia/Ulan_Bator:221 Asia/Urumqi:243",
  "Asia/Ust-Nera:280 Asia/Vientiane:281 Asia/Vladivostok:282 Asia/Yakutsk:283",
  "Asia/Yangon:284 Asia/Yekaterinburg:285 Asia/Yerevan:286 Atlantic/Azores:287",
  "Atlantic/Bermuda:288 Atlantic/Canary:289 Atlantic/Cape_Verde:290 Atlantic/Faeroe:291",
  "Atlantic/Faroe:291 Atlantic/Jan_Mayen:203 Atlantic/Madeira:292 Atlantic/Reykjavik:293",
  "Atlantic/South_Georgia:294 Atlantic/St_Helena:295 Atlantic/Stanley:296 Australia/ACT:300",
  "Australia/Adelaide:297 Australia/Brisbane:298 Australia/Broken_Hill:299",
  "Australia/Canberra:300 Australia/Currie:301 Australia/Darwin:302 Australia/Eucla:303",
  "Australia/Hobart:301 Australia/LHI:305 Australia/Lindeman:304 Australia/Lord_Howe:305",
  "Australia/Melbourne:306 Australia/NSW:300 Australia/North:302 Australia/Perth:307",
  "Australia/Queensland:298 Australia/South:297 Australia/Sydney:300 Australia/Tasmania:301",
  "Australia/Victoria:306 Australia/West:307 Australia/Yancowinna:299 Brazil/Acre:165",
  "Brazil/DeNoronha:155 Brazil/East:177 Brazil/West:137 CET:308 CST6CDT:309",
  "Canada/Atlantic:115 Canada/Central:169 Canada/Eastern:150 Canada/Mountain:101",
  "Canada/Newfoundland:180 Canada/Pacific:189 Canada/Saskatchewan:172 Canada/Yukon:190",
  "Chile/Continental:175 Chile/EasterIsland:413 Cuba:116 EET:310 EST:311 EST5EDT:312",
  "Egypt:12 Eire:355 Etc/GMT:313 Etc/GMT+0:313 Etc/GMT+1:314 Etc/GMT+10:315 Etc/GMT+11:316",
  "Etc/GMT+12:317 Etc/GMT+2:318 Etc/GMT+3:319 Etc/GMT+4:320 Etc/GMT+5:321 Etc/GMT+6:322",
  "Etc/GMT+7:323 Etc/GMT+8:324 Etc/GMT+9:325 Etc/GMT-0:313 Etc/GMT-1:326 Etc/GMT-10:327",
  "Etc/GMT-11:328 Etc/GMT-12:329 Etc/GMT-13:330 Etc/GMT-14:331 Etc/GMT-2:332 Etc/GMT-3:333",
  "Etc/GMT-4:334 Etc/GMT-5:335 Etc/GMT-6:336 Etc/GMT-7:337 Etc/GMT-8:338 Etc/GMT-9:339",
  "Etc/GMT0:313 Etc/Greenwich:313 Etc/UCT:340 Etc/UTC:340 Etc/Universal:340 Etc/Zulu:340",
  "Europe/Amsterdam:341 Europe/Andorra:342 Europe/Astrakhan:343 Europe/Athens:344",
  "Europe/Belfast:345 Europe/Belgrade:346 Europe/Berlin:347 Europe/Bratislava:348",
  "Europe/Brussels:349 Europe/Bucharest:350 Europe/Budapest:351 Europe/Busingen:352",
  "Europe/Chisinau:353 Europe/Copenhagen:354 Europe/Dublin:355 Europe/Gibraltar:356",
  "Europe/Guernsey:357 Europe/Helsinki:358 Europe/Isle_of_Man:359 Europe/Istanbul:236",
  "Europe/Jersey:360 Europe/Kaliningrad:361 Europe/Kiev:363 Europe/Kirov:362 Europe/Kyiv:363",
  "Europe/Lisbon:364 Europe/Ljubljana:365 Europe/London:345 Europe/Luxembourg:366",
  "Europe/Madrid:367 Europe/Malta:368 Europe/Mariehamn:358 Europe/Minsk:369",
  "Europe/Monaco:370 Europe/Moscow:371 Europe/Nicosia:256 Europe/Oslo:203 Europe/Paris:372",
  "Europe/Podgorica:346 Europe/Prague:348 Europe/Riga:373 Europe/Rome:374 Europe/Samara:375",
  "Europe/San_Marino:374 Europe/Sarajevo:376 Europe/Saratov:377 Europe/Simferopol:378",
  "Europe/Skopje:379 Europe/Sofia:380 Europe/Stockholm:381 Europe/Tallinn:382",
  "Europe/Tirane:383 Europe/Tiraspol:353 Europe/Ulyanovsk:384 Europe/Uzhgorod:363",
  "Europe/Vaduz:385 Europe/Vatican:374 Europe/Vienna:386 Europe/Vilnius:387",
  "Europe/Volgograd:388 Europe/Warsaw:389 Europe/Zagreb:390 Europe/Zaporozhye:363",
  "Europe/Zurich:352 Factory:391 GB:345 GB-Eire:345 GMT:313 GMT+0:313 GMT-0:313 GMT0:313",
  "Greenwich:313 HST:392 Hongkong:233 Iceland:293 Indian/Antananarivo:393 Indian/Chagos:394",
  "Indian/Christmas:395 Indian/Cocos:396 Indian/Comoro:397 Indian/Kerguelen:398",
  "Indian/Mahe:399 Indian/Maldives:400 Indian/Mauritius:401 Indian/Mayotte:402",
  "Indian/Reunion:403 Iran:276 Israel:239 Jamaica:128 Japan:278 Kwajalein:426 Libya:49",
  "MET:404 MST:405 MST7MDT:406 Mexico/BajaNorte:104 Mexico/BajaSur:141 Mexico/General:145",
  "NZ:409 NZ-CHAT:411 Navajo:98 PRC:222 PST8PDT:407 Pacific/Apia:408 Pacific/Auckland:409",
  "Pacific/Bougainville:410 Pacific/Chatham:411 Pacific/Chuuk:412 Pacific/Easter:413",
  "Pacific/Efate:414 Pacific/Enderbury:423 Pacific/Fakaofo:415 Pacific/Fiji:416",
  "Pacific/Funafuti:417 Pacific/Galapagos:418 Pacific/Gambier:419 Pacific/Guadalcanal:420",
  "Pacific/Guam:421 Pacific/Honolulu:422 Pacific/Johnston:422 Pacific/Kanton:423",
  "Pacific/Kiritimati:424 Pacific/Kosrae:425 Pacific/Kwajalein:426 Pacific/Majuro:427",
  "Pacific/Marquesas:428 Pacific/Midway:429 Pacific/Nauru:430 Pacific/Niue:431",
  "Pacific/Norfolk:432 Pacific/Noumea:433 Pacific/Pago_Pago:434 Pacific/Palau:435",
  "Pacific/Pitcairn:436 Pacific/Pohnpei:437 Pacific/Ponape:437 Pacific/Port_Moresby:438",
  "Pacific/Rarotonga:439 Pacific/Saipan:440 Pacific/Samoa:434 Pacific/Tahiti:441",
  "Pacific/Tarawa:442 Pacific/Tongatapu:443 Pacific/Truk:412 Pacific/Wake:444",
  "Pacific/Wallis:445 Pacific/Yap:412 Poland:389 Portugal:364 ROC:273 ROK:270 Singapore:271",
  "Turkey:236 UCT:340 US/Alaska:53 US/Aleutian:52 US/Arizona:163 US/Central:87",
  "US/East-Indiana:118 US/Eastern:153 US/Hawaii:422 US/Indiana-Starke:119 US/Michigan:99",
  "US/Mountain:98 US/Pacific:134 US/Samoa:434 UTC:340 Universal:340 W-SU:371 WET:446",
  "Zulu:340 localtime:340 posixrules:153"]

/-- Files of the zone directory that are not zone files. -/
def otherFiles : List String :=
  ["iso3166.tab", "leap-seconds.list", "leapseconds", "tzdata.zi", "zone.tab", "zone1970.tab", "zonenow.tab"]

/-- All histories, in order of their numbers. -/
def histories : List String :=
  part1 ++ part2 ++ part3 ++ part4 ++ part5 ++ part6

end Autoresponder.Time.Table
