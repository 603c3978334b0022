import NamedQuery.Text.CodeTable

/-!
# The order of characters

In a dictionary punctuation comes first, then symbols, currencies, digits and letters, script by
script. Marks have an order of their own. Controls and other invisible characters have no place at
all.

* `asciiPlace?`, `place?` — the place of a character that has one of its own;
* `markPlace?` — the place of a mark among the marks;
* `isIgnored` — whether a character counts for nothing.
-/

namespace NamedQuery.Text

/-- The ASCII characters in their order. Capitals share the places of the small letters. -/
def asciiOrder : List Char :=
  ("\t\n\x0b\x0c\r _-,;:!?.'\"()[]\x7b\x7d@*/\\&#%`^+<=>|~$" ++
    "0123456789abcdefghijklmnopqrstuvwxyz").toList

/-- How many places there are for others behind each ASCII character. -/
def asciiGap : Nat := 0x10000

/-- The place of an ASCII character. -/
def asciiPlace? (c : Char) : Option Nat :=
  (asciiOrder.findIdx? (· == c)).map fun i => (i + 1) * asciiGap

/-- The characters with places of their own in their order, the ASCII ones among them. -/
def orderTable : String :=
  "0009 000A 000B 000C 000D 0085 2028-2029 0020 203E 005F 2017 002D 058A 1400 1B60 1806-1807 2010
  2012-2015 2E3A-2E3B 2053 2E43 2E17 2E40 301C 3030 30A0 30FB 10EAD 002C 2E34 2E32 2E41 2E4C
  2E4E-2E4F 055D 060C-060D 066B-066C 07F8 1802 1808 A4FE A60D A6F5 16E97 3001 FE45-FE46 16FE2
  003B 061B 204F 2E35 A6F6 2E49 003A 0589 061E 0703-0708 0830-083E 1361 1363-1366 1804-1805 0F14
  17D6 1B5D A9C7 16EB-16ED A6F4 0021 00A1 055C 07F9 1944 1E95E 003F 00BF 2E2E 055E 061F 0709 1367
  1945 2CFA-2CFB A60F A6F7 AAF1 11143 1E95F 203D 2E18 002E 1801 06D4 0701-0702 1362 1803 1809
  166E 1B5C 2CF9 2CFE 2E30 2E3C A4FF A60E A6F3 16AF5 16E98 1BC9F 3002 00B7 2E31 2E33 0964-0965
  A8CE-A8CF 1C3B-1C3C A876-A877 1735-1736 A92F 104A-104B 17D4-17D5 1AA8-1AAB 1B5E-1B5F A9C8-A9C9
  AA5D-AA5F AAF0 ABEB 10A56-10A57 11047-11048 110C0-110C1 11141-11142 111C5-111C6 11238-11239
  1144B-1144C 115C2-115C3 11641-11642 1173C-1173D 11944 11C41-11C42 16A6E-16A6F 1C7E-1C7F 0700
  07F7 10FB 1360 1368 1A1E-1A1F 1B5A-1B5B A9C1-A9C6 A9CA-A9CD A6F2 A95F 10857 10B3A-10B3F
  10F55-10F59 110BE-110BF 11140 111C8 111DE-111DF 112A9 1173E 11946 11EF7-11EF8 2055-2056
  2058-205E 2E2A-2E2D 2E3D 2CFC 2CFF 2E19 1093F 10100-10102 1039F 103D0 1091F 12470-12474 0027
  2018-201B 2039-203A 0022 201C-201F 2E42 301D-301F 00AB 00BB 0028 0029 005B 005D 007B 007D
  0F3A-0F3D 169B-169C 2045-2046 2308-230B 29FC-29FD 2983-2998 27C5-27C6 27E6-27EF 2768-2775
  2E02-2E05 2E09-2E0A 2E0C-2E0D 2E1C-2E1D 2E20-2E29 3008-3011 3014-301B FD3E-FD3F 2016 2E3E
  29D8-29DB 00A7 2E39 00B6 204B 2E4D 2E3F 0040 002A 204E 2051 066D A673 002F 005C 2E4A 0026 204A
  2E52 0023 0025 066A 2030 0609 2031 060A 2020-2021 2E36-2E38 2E4B 2022-2023 2027 2043 204C-204D
  2032 2035 3003 303D 2038 203B 203F 2054 2040 2050 2041-2042 2E00-2E01 2E06-2E08 2E0B 2E0E-2E16
  2E1A-2E1B 2E1E-2E1F 2E44-2E48 A67E 055A-055B 055F 05BE 05C0 05C3 05C6 05F3-05F4 070A-070D 085E
  1800 11660-1166C 0970 A8F8-A8FA A8FC 09FD 0A76 0AF0 0C77 0C84 0DF4 0E4F 0E5A-0E5B AADE-AADF
  0F04-0F0A 0FD0-0FD1 0F0B 0F0D-0F12 0F85 0FD2-0FD4 0FD9-0FDA 11A3F-11A46 11A9A-11A9C 11A9E-11AA2
  11C70-11C71 1C3D-1C3F 104C-104F 17D8-17DA 1AA0-1AA6 1AAC-1AAD 1CC0-1CC7 2D70 A874-A875
  1BFC-1BFF A92E A9DE-A9DF AA5C 1056F 11049-1104D 10A50-10A55 10A58 11C43-11C45 10B39 10AF0-10AF6
  10B99-10B9C 110BB-110BC 11174-11175 111CD 111C7 111DB 111DD 1123A-1123D 1144D 1145A 1144E-1144F
  1145B 1145D 114C6 115C1 115C4-115D7 11643 1183B 11945 119E2 11FFF 16B37-16B3B 16B44 16E99-16E9A
  1DA87-1DA8B 0060 00B4 02DC 005E 00AF 02D8-02D9 00A8 02DA 02DD 00B8 02DB 1FBD 1FFE 1FC0
  309B-309C 02B9 0375 02BA 02C2-02CF 02D2-02D5 AB6A-AB6B 02D6-02D7 02DE-02DF 02E5-02ED 02EF-02FF
  1390-1399 A700-A721 A788-A78A AB5B 00B0 0482 058D-058E 0608 1EEF0-1EEF1 060E-060F 06DE 06E9
  FDFD FBB2-FBC1 07F6 09FA 0B70 0BF3-0BF8 0BFA 11FD5-11FDC 11FE1-11FF1 0C7F 0D4F 0D79 A828-A82B
  A836-A837 A839 0F01-0F03 0F13 0F15-0F17 0F1A-0F1F 0F34 0F36 0F38 0FBE-0FC5 0FC7-0FCC 0FCE-0FCF
  0FD5-0FD8 166D 1940 109E-109F AA77-AA79 1173F 19E0-19FF 1B61-1B6A 1B74-1B7C 00A9 1F12F 00AE
  1F1AD 2104 2108 2114 2117-2118 211E-211F 2123 2125 2127 2129 212E 213A 2141-2144 214A 214C 214F
  218A-218B 2190 2192 2191 2193-2199 219C-21AD 21AF-21CC 21D0-2203 2205-2208 220A-220B 220D 03F6
  220E-2211 002B 00B1 00F7 00D7 003C 003D 003E 00AC 007C 00A6 007E 2212 2052 2213-2215 2044
  2216-221B 0606 221C 0607 221D-2223 2225 2227-222B 222E 2231-2240 2242-2243 2245-2246 2248
  224A-225F 2261 2263-226C 2272-2273 2276-2277 227A-227F 2282-2283 2286-2287 228A-22AB 22B0-22BC
  214B 22BD-22DF 22E4-22E9 22EE-2307 230C-2328 232B-2426 2440-244A 2500-25FF 1FB00-1FB92
  1FB94-1FBCA 2600-262F 2638-266C 2670-2689 2690-26FF 1F1E6-1F1FF 2700-2720 2E50-2E51 2721-2767
  2794-27C4 27C7-27E5 27F0-27FF 2900-2982 2999-29D7 29DC-29FB 29FE-2A0B 2A0D-2A73 2A77-2ADB
  2ADD-2B73 2B76-2B95 2B97-2BFF 2CE5-2CEA 2800-28FF 268A-268F 2630-2637 4DC0-4DFF 1D300-1D356
  A490-A4C6 10137-1013F 10179-10189 1018C-1018E 10190-1019C 101A0 101D0-101FC 10877-10878
  16B3C-16B3F 16B45 1E14F 1D000-1D0F5 1D100-1D126 266D-266F 1D12A-1D139 1D129 1D13A-1D15D
  1D16A-1D16C 1D183-1D184 1D18C-1D1A9 1D1AE-1D1BA 1D1C1-1D1E8 1D200-1D241 1D245 1BC9C 1ECAC 1ED2E
  1F000-1F02B 1F030-1F093 1F0A0-1F0AE 1F0B1-1F0BF 1F0C1-1F0CF 1F0D1-1F0F5 1FA00-1FA53 1FA60-1FA6D
  1F10D-1F10F 1F16D-1F16F 1F260-1F265 1F300-1F5FF 1F900-1F978 1F97A-1F9CB 1F9CD-1F9FF 1FA70-1FA74
  1FA78-1FA7A 1FA80-1FA86 1FA90-1FAA8 1FAB0-1FAB6 1FAC0-1FAC2 1FAD0-1FAD6 1F600-1F6D7 1F6E0-1F6EC
  1F6F0-1F6FC 1F700-1F773 1F780-1F7D8 1F7E0-1F7EB 1F800-1F80B 1F810-1F847 1F850-1F859 1F860-1F887
  1F890-1F8AD 1F8B0-1F8B1 1D800-1D9FF 1DA37-1DA3A 1DA6D-1DA74 1DA76-1DA83 1DA85-1DA86 2FF0-2FFB
  31C0-31E3 3004 3012-3013 3020 3037 303E-303F 3190-3191 327F FFFC 09F4-09F9 0B72-0B77 A830-A835
  0BF0-0BF2 11FC0-11FD4 0D58-0D5E 0D70-0D78 1372-137C 2180-2182 2186-2188 10E69-10E7E 2CFD
  10322-10323 10CFC-10CFF 10110-10133 10140-10141 10144-10147 10149-1014E 10150-10157 10160-10172
  10174-10178 1018B 102EA-102FB 103D3-103D5 1087E-1087F 108AD-108AF 108FD-108FF 10A7E-10A7F
  10A9E-10A9F 10917-10919 1085B-1085F 10AED-10AEF 10B5C-10B5F 10B7C-10B7F 10BAD-10BAF 10F22-10F26
  10F52-10F54 10FC9-10FCB 1173A-1173B 1105B-11065 10A44-10A48 11C63-11C6C 111EA-111F4 118EA-118F2
  16B5B-16B61 16E8A-16E93 1D2EA-1D2F3 1EC7A-1ECA2 1ECAD-1ECAF 1ECB3-1ECB4 1ED0A-1ED2D 1ED37-1ED3D
  109C9-109CF 109D2-109F5 109BD 109F6-109FF 109BC 12432-12433 1245A-12468 1D369-1D371 02D0-02D1
  0971 0E46 0EC6 17D7 1AA7 A9CF A9E6 AA70 AADD AAF3-AAF4 16B42-16B43 1E13C-1E13D 3005 303B
  16FE0-16FE1 16FE3 3031 3033 3035 309D 30FC-30FD 00A4 00A2 0024 00A3 00A5 058F 060B 07FE-07FF
  09F2-09F3 09FB 0AF1 A838 0BF9 11FDD-11FE0 0E3F 17DB 1E2FF 20A0-20A7 20A9-20B9 1ECB0 20BA-20BF
  0030 0031 0032 0033 0034 0035 0036 0037 0038 0039 0061 1D00 2C65 1D8F A7BB 1D01-1D02 AB31
  0250-0251 AB30 1D90 0252 AB64 0062 0299 0180 1D2F 1D03 1D6C A797 1D80 0253 0183 A7B5 0063 1D04
  023C A793-A794 0188 0255 2184 A73F 0064 1D05-1D06 A7C8 1D6D 1D81 0256-0257 1D91 018C 0221 A771
  1E9F 0065 1D07 AB32-AB33 0247 1D92 AB34 2C78 01DD 2C7B 0259 1D95 025B 1D93 0258 025A 025C 1D94
  1D08 025D-025E 029A 0264 0066 A730 AB35 A799 1D6E 1D82 0192 214E A7FB 0067 0261 AB36 0262 01E5
  1D83 0260 029B 1D77 A77F 0263 01A3 0068 029C 0195 A795 0266 2C68 2C76 A7F6 A727 0267 02BB 02BD
  0069 0131 026A A7FE A7F7 1D09 0268 1D7B 1D96 A7BD 0269 1D7C 006A 0237 1D0A 0249 029D 025F 0284
  006B 1D0B 1D84 0199 2C6A A741 A743 A745 029E 006C 029F A747 1D0C A749 019A 2C61 026B AB38-AB39
  026C AB37 1D85 026D A78E 0234 A772 026E A781 019B 028E 006D 1D0D 1D6F 1D86 0271 AB3A A7FD A7FF
  A773 006E 0274 1D3B 1D0E 1D70 0272 019E A791 1D87 0273 0235 AB3B A774 014B AB3C 006F 1D0F 1D11
  AB3D 0276 1D14 AB41-AB42 AB40 AB43-AB44 1D13 AB3E 0254 1D10 1D12 AB3F 1D97 AB62 A74D 1D16-1D17
  2C7A 0275 A74B 0277 A7B7 0223 1D15 0070 1D18 1D7D A751 1D71 1D88 01A5 A753 A755 A7FC 0278 2C77
  0071 A7AF A757 A759 02A0 024B 0138 0072 AB45 0280 AB46 A75B 1D19 024D 1D72 0279 1D1A 027A 1D89
  027B 2C79 027C-027D AB49 027E 1D73 027F AB47-AB48 AB4A-AB4C 0281 AB68 A775-A776 A75D 0073 A731
  A7CA 1D74 1D8A 0282 023F 1E9C-1E9D 0283 AB4D 1D8B 01AA 0285 1D98 0286 0074 1D1B 0167 2C66 1D75
  01AB 01AD 0288 0236 A777 0287 0075 1D1C AB4E 1D1D-1D1E 1D6B AB50-AB51 0289 AB4F A7B9 1D7E 1D99
  AB52 A7BF 0265 02AE-02AF 026F A7FA 1D1F 0270 028A 1D7F 0076 1D20 A75F 1D8C 028B 2C71 2C74 1EFD
  028C 0077 1D21 A7C3 2C73 028D 0078 1D8D AB56-AB59 AB53-AB55 0079 028F 024F 01B4 1EFF AB5A 021D
  007A 1D22 01B6 1D76 1D8E 0225 0290-0291 0240 2C6C A763 0292 1D23 01B9 1D9A 01BA 0293 00FE A765
  A767 01BF A769 AB60-AB61 AB63 A76B A76D A76F A778 01BB A72B A72D A72F 01A8 01BD 0185 0294 0242
  02C0 02BC 02EE 02BE A723 A78C A78F 0295 02BF 02C1 1D24-1D25 A725 02A1-02A2 0296 01C0-01C3
  0297-0298 02AC-02AD 03B1-03B3 1D26 03B4-03B5 03DD 0377 03DB 03B6 0371 03B7-03B9 03F3 03BA-03BB
  1D27 03BC-03C0 1D28 03FB 03DF 03D9 03C1 1D29 03FC 03C3 037C 037B 037D 03C4-03C8 1D2A 03C9 AB65
  03E1 0373 03F8 2C81 2C83 2C85 2C87 2C89 2CB7 2C8B 2C8D 2C8F 2C91 2C93 2C95 2CB9 2C97 2C99 2C9B
  2CBB 2CBD 2C9D 2C9F 2CA1 2CA3 2CA5 2CA7 2CA9 2CAB 2CAD 2CAF 2CB1 2CBF 2CC1 03E3 2CEC 2CC3 2CC5
  2CC7 03E5 03E7 2CF3 2CC9 03E9 2CCB 2CCD 2CCF 2CD1 2CD3 2CD5 03EB 2CEE 2CD7 03ED 2CD9 2CDB 2CDD
  03EF 2CB3 2CB5 2CDF 2CE1 2CE3 0430 04D9 04D5 0431-0433 0493 04FB 0495 04F7 0434 0501 A681 0452
  A663 0503 0499 0435 0454 0436 052B A685 0497 0437 A641 0505 0511 A643 0455 A645 04E1 A689 0507
  A683 0438 048B 0456 A647 0439 0458 A649 043A 049B 04C4 04A1 049F 049D 051F 051B 043B 1D2B 04C6
  052F 0513 0521 0459 A665 0509 0515 043C 04CE A667 043D 0529 04CA 04A3 04C8 0523 04A5 045A 050B
  043E 04E9 043F 0525 04A7 0481 0440 048F 0517 0441 050D 04AB 0442 A68D 050F 04AD A68B 045B 0443
  04AF 04B1 A64B 0479 0444-0445 04FD 04FF 04B3 04BB 0527 A695 0461 047F A64D 047D 047B 0446 A661
  A68F 04B5 A691 0447 052D A693 04B7 04CC 04B9 A687 04BD 04BF 045F 0448 A697 0449 A64F 2E2F A67F
  044A A651 044B-044C 048D 0463 A653 044D-044E A655 A657 044F 0519 0465 0467 A659 046B A65B 0469
  A65D 046D 046F 0471 0473 0475 A65F 04A9 051D 04CF 2C30-2C5E 10350-10375 10D0 2D00 10D1 2D01
  10D2 2D02 10D3 2D03 10D4 2D04 10D5 2D05 10D6 2D06 10F1 2D21 10D7 2D07 10D8 2D08 10D9 2D09 10DA
  2D0A 10DB 2D0B 10DC 2D0C 10F2 2D22 10DD 2D0D 10DE 2D0E 10DF 2D0F 10E0 2D10 10E1 2D11 10E2 2D12
  10F3 2D23 10E3 2D13 10E4 2D14 10E5 2D15 10E6 2D16 10E7 2D17 10E8 2D18 10E9 2D19 10EA 2D1A 10EB
  2D1B 10EC 2D1C 10ED 2D1D 10EE 2D1E 10F4 2D24 10EF 2D1F 10F0 2D20 10F5 2D25 10F6-10F7 2D27
  10F8-10FA 10FD 2D2D 10FE-10FF 0561 0560 0562-0575 0588 0576-0586 0559 05D0-05D9 05DB-05DC 05DE
  05E0-05E2 05E4 05E6-05EA 10900-10915 0800-0817 081A-081B 0621-0623 0672 0671 0624-0625 0673
  0773-0774 0626 08A8-08A9 08AC 0627 066E 0628 067B 067E 0680 0750-0755 08A0 0756 08BE 08A1
  08B6-08B7 0629-062B 0679-067A 067C-067D 067F 08B8 08BF-08C0 062C 0683-0684 0686 06BF 0687 08A2
  08C1 08C5-08C6 062D-062E 0681-0682 0685 0757-0758 076E-076F 0772 077C 062F-0630 0688-068D 08AE
  068E-0690 06EE 0759-075A 0631-0632 0691-0699 06EF 075B 076B-076C 0771 08AA 08B2 08B9 0633-0634
  069A-069C 06FA 075C 076D 0770 077D-077E 0635-0636 069D 08AF 069E 06FB 0637-0638 069F 08A3
  0639-063A 06A0 08C3 06FC 075D-075F 08B3 0641 06A1-06A2 08BB 06A3-06A4 08A4 06A5-06A6 0760-0761
  066F 0642 06A7 08BC 06A8 08C4 08A5 0643 06A9-06AC 077F 06AD-06AE 08B4 06AF 08B0 06B0-06B4 0762
  063B-063C 0763-0764 08C2 0644 06B5-06B8 076A 08A6 08C7 0645 0765-0766 08A7 0646 06BA 08BD
  06BB-06BD 06B9 0767-0769 0647 06BE 06C1 06C3 06FF 06D5 0648 06C4-06CB 08B1 06CF 0778-0779 08AB
  0649-064A 06CC-06CE 06D0-06D1 063D-063F 0620 0775-0777 08BA 06D2 077A-077B 0710 0712-0713 0716
  0715 0717-0719 074D 071A-071B 071D-071F 074E 0720-0723 0725-0726 074F 0728-072C 0860-086A
  0840-0858 0780 0799-079A 0781-0783 079C 0784-0787 07A2-07A3 0788 07A5 0789-078B 079B 078C 0798
  07A0-07A1 078D-078E 07A4 078F-0790 079D-079F 0791-0797 07B1 07A6-07B0 07CA-07E7 07F4-07F5
  2D30-2D3B 2D66 2D3C-2D53 2D67 2D54-2D65 2D6F 1200-120F 2D80 1210-121F 1380-1383 2D81 1220-122F
  2D82 1230-1237 2D83 AB01-AB06 1238-123F 2D84 1240-1248 124A-124D 1250-1256 1258 125A-125D
  1260-1267 1384-1387 2D85 1268-1277 2D86 1278-127F 2D87 1280-1288 128A-128D 1290-1297 2D88
  1298-129F 2D89 12A0-12A7 2D8A 12A8-12B0 12B2-12B5 12B8-12BE 12C0 12C2-12C5 12C8-12D6 12D8-12DF
  2D8B AB11-AB16 12E0-12F7 2D8C AB09-AB0E 12F8-12FF 2D8D 1300-1307 2D8E 1308-1310 1312-1315
  1318-131F 2D93-2D96 1320-1327 2D8F 1328-132F 2D90 AB20-AB26 1330-1337 2D91 1338-133F AB28-AB2E
  1340-134F 1388-138B 1350-1357 138C-138F 2D92 1358-135A 2DA0-2DA6 2DA8-2DAE 2DB0-2DB6 2DB8-2DBE
  2DC0-2DC6 2DC8-2DCE 2DD0-2DD6 2DD8-2DDE 0950 A8FD 0972 0904-0906 0973-0977 0907-090B 0960 090C
  0961 090D-0910 A8FE 0911-0917 097B 0918-091C 0979 097C 091D-0920 0978 0921 097E 0922-0928
  092A-092C 097F 092D-092F 097A 0930 0932-0933 0935-0939 093D 097D 1CE9 1CF5-1CF6 A8F2 A8FB 093E
  093A-093B 094F 0956-0957 093F-0944 0962-0963 0945 0955 0946-0947 094E 0948 A8FF 0949-094D 0980
  0985-098B 09E0 098C 09E1 098F-0990 0993-09A8 09AA-09B0 09F0 09B2 09F1 09B6-09B9 09BD-09C4
  09E2-09E3 09C7-09C8 09CB-09CD 09D7 09FC 0A74 0A73 0A09-0A0A 0A13 0A05-0A06 0A10 0A14 0A72
  0A07-0A08 0A0F 0A38-0A39 0A51 0A15-0A28 0A2A-0A2F 0A75 0A30 0A32 0A35 0A5C 0A3E-0A42 0A47-0A48
  0A4B-0A4D 0AD0 0A85-0A8B 0AE0 0A8C 0AE1 0A8D 0A8F-0A91 0A93-0A9C 0AF9 0A9D-0AA8 0AAA-0AB0 0AB2
  0AB5-0AB9 0AB3 0ABD-0AC4 0AE2-0AE3 0AC5 0AC7-0AC9 0ACB-0ACD 0B05-0B0B 0B60 0B0C 0B61 0B0F-0B10
  0B13-0B28 0B2A-0B2F 0B5F 0B30 0B32-0B33 0B35 0B71 0B36-0B39 0B3D-0B44 0B62-0B63 0B47-0B48
  0B4B-0B4D 0B56-0B57 0BD0 0B85-0B8A 0B8E-0B90 0B92-0B94 0B83 0B95 0B99-0B9A 0B9E-0B9F 0BA3-0BA4
  0BA8 0BAA 0BAE-0BB0 0BB2 0BB5 0BB4 0BB3 0BB1 0BA9 0B9C 0BB6-0BB9 0BBE-0BC2 0BC6-0BC8 0BCA-0BCD
  0BD7 0C05-0C0B 0C60 0C0C 0C61 0C0E-0C10 0C12-0C1A 0C58 0C1B-0C1C 0C59 0C1D-0C28 0C2A-0C32
  0C35-0C39 0C33-0C34 0C5A 0C3D-0C44 0C62-0C63 0C46-0C48 0C4A-0C4D 0C55-0C56 0C85-0C8B 0CE0 0C8C
  0CE1 0C8E-0C90 0C92-0CA8 0CAA-0CB2 0CB5-0CB9 0CB3 0CDE 0CBD 0CF1-0CF2 0C80 0CBE-0CC4 0CE2-0CE3
  0CC6-0CC8 0CCA-0CCD 0CD5-0CD6 0D05-0D08 0D5F 0D09-0D0B 0D60 0D0C 0D61 0D0E-0D10 0D12-0D30 0D32
  0D35-0D39 0D33-0D34 0D31 0D3A 0D3D 0D04 0D3E-0D44 0D62-0D63 0D46-0D48 0D4A-0D4C 0D57 0D4D
  0D85-0D96 0D9A-0DB1 0DB3-0DBB 0DBD 0DC0-0DC6 0DCF-0DD4 0DD6 0DD8 0DF2 0DDF 0DF3 0DD9-0DDE 0DCA
  AAF2 ABC0-ABDA AAE0-AAEA ABE3-ABEA AAEB-AAEF AAF5 ABDB-ABE2 ABED AAF6 A800-A806 A82C A807-A80A
  A80C-A827 A882-A8C4 11083-11099 1109B 1109D-110AA 110AC-110B9 11150-1116F 11176 11170-11172
  111C4 111DA 11183-111B2 111C1-111C3 111DC 111B3-111BC 111CE 111BD-111C0 11200-11211 11213-11233
  11235 112B0-112DE 112E0-112E8 112EA 11280-11283 112A5-112A6 11284-11286 11288 1128A-1128D
  1128F-1129D 1129F-112A4 112A7-112A8 11350 11305-1130B 11360 1130C 11361 1130F-11310 11313-11328
  1132A-11330 11332-11333 11335-11339 1133D 1135E-1135F 1133E-11344 11362-11363 11347-11348
  1134B-1134D 11357 1135D 11449-1144A 11400-11434 11447 11460-11461 11448 1145F 11435-11442 114C7
  11480-114AF 114C4-114C5 114B0-114BE 114C2 11580-115B5 115B8-115BB 115BF 11600-1163C 1163F 11644
  11680-11689 116A8 116A7 116A9 1168A-1168B 116B8 1168C-116A6 116AA 116AD-116B6 11900-11906 11909
  1190C-11910 1193F 11911-11913 11915-11916 11918-11925 11940 11926 11941 11927 11942 11928-11935
  11937-11938 1193D-1193E 119A0-119A7 119AA-119D0 119E1 119E3 119D1-119D7 119DA 119E4 119DB-119DD
  119E0 11800-11836 11839 11700-11704 11706-11715 11717-11719 11720-1172B 1171D-1171F 11D00-11D06
  11D08-11D09 11D0B-11D36 11D3A 11D3C-11D3D 11D3F 11D44-11D45 11D98 11D60-11D65 11D67-11D68
  11D6A-11D8E 11D90-11D91 11D93-11D94 11D97 1B83-1B8A 1BAE 1B8B-1B98 1BBD 1B99 1BAC 1B9A 1BA1
  1B9B 1BA2 1BBB 1B9C 1BA3 1BBC 1B9D 1BAD 1B9E-1B9F 1BAF 1BA0 1BA4-1BAB 11005-11033 11003-11004
  11034-11046 1107F 10A00-10A03 10A05-10A06 10A0C 10A10 10A32 10A11-10A13 10A15-10A17 10A19-10A1A
  10A34 10A1B 10A33 10A1C-10A2C 10A35 10A2D-10A31 10A3F 11C00-11C08 11C0A-11C2E 11C40 11C2F-11C36
  11C38-11C3B 11C3F 0E01-0E3A 0E40-0E45 0EDE 0E81-0E82 0E84 0E86-0E89 0EAA 0E8A 0E8C 0E8E 0EDF
  0E8D 0E8F-0EA3 0EA5 0EA7-0EA9 0EAB-0EBD 0EC0-0EC4 AA80-AABE AAC0 AAC2 AADB-AADC 0F40 0F90 0F6B
  0F41 0F91 0F42 0F92 0F44 0F94 0F45 0F95 0F46 0F96 0F47 0F97 0F49 0F99 0F4A 0F9A 0F4B 0F9B 0F4C
  0F9C 0F4E 0F9E 0F4F 0F9F 0F50 0FA0 0F51 0FA1 0F53 0FA3 0F54 0FA4 0F55 0FA5 0F56 0FA6 0F58 0FA8
  0F59 0FA9 0F5A 0FAA 0F5B 0FAB 0F5D 0FAD 0F5E 0FAE 0F5F 0FAF 0F60 0FB0 0F61 0FB1 0F62 0FB2 0F6C
  0F63 0FB3 0F64 0FB4 0F65 0FB5 0F66 0FB6 0F67 0FB7 0F68 0FB8 0F88 0F8D 0F89 0F8E 0F8C 0F8F
  0F8A-0F8B 0F71-0F72 0F80 0F74 0F77 0F79-0F7D 0F84 11A0B 11A32 11A0C-11A31 11A00-11A0A 11A34
  11A47 11A50-11A53 11A59-11A5A 11A54 11A56 11A55 11A57-11A58 11A5B-11A5C 11A83 11A5D-11A82
  11A84-11A85 11A99 11A9D 11C72 11C92 11C73 11C93 11C74 11C94 11C75 11C95 11C76 11C96 11C77 11C97
  11C78 11C98 11C79 11C99 11C7A 11C9A 11C7B 11C9B 11C7C 11C9C 11C7D 11C9D 11C7E 11C9E 11C7F 11C9F
  11C80 11CA0 11C81 11CA1 11C82 11CA2 11C83 11CA3 11C84 11CA4 11C85 11CA5 11C86 11CA6 11C87 11CA7
  11C88-11C89 11CA9 11C8A 11CAA 11C8B 11CAB 11C8C 11CAC 11C8D 11CAD 11C8E 11CAE 11C8F 11CAF-11CB4
  1C00-1C09 1C4D-1C4F 1C0A-1C1A 1C24 1C1B 1C25 1C1C-1C23 1C36 1C26-1C35 A840-A847 A869-A86C
  A848-A853 A867 A854-A857 A868 A86D A858 A871-A872 A859-A85A A86E A85B-A85C A86F-A870 A85D
  A862-A865 A85E-A861 A866 A873 1900-191C 1920-192B 1930-1938 1700-170C 170E-1714 1720-1734
  1740-1753 1760-176C 176E-1770 1772-1773 1A00-1A1B 11EE0-11EF6 1BC0 1BC2 1BC5 1BC7 1BC9 1BCB
  1BCE 1BD0-1BD2 1BD4 1BD6 1BD8 1BDB 1BDD-1BDE 1BE0-1BE5 1BE7 1BE9-1BEA 1BEC 1BEE 1BF0-1BF3
  A930-A953 A90A-A92A 1000 1075 1001 1076 1002 1077 AA60 A9E9 1003 A9E0 A9EA 1004 105A 1005 1078
  AA61 1006 A9E1 AA62 AA7E 1007 AA63 A9EB 1079 AA72 1008 105B A9E2 AA64 A9EC 1061 AA7F 1009 107A
  AA65 A9E7 100A-100B AA66 100C AA67 100D AA68 A9ED 100E AA69 A9EE 100F 106E A9E3 A9EF 1010-1012
  107B A9FB 1013 AA6A A9FC 1014 107C AA6B 105E 1015-1016 107D-107E AA6F 108E A9E8 1017 107F A9FD
  1018 A9E4 A9FE 1019 105F 101A 103B 101B AA73 AA7A 103C 101C 1060 101D 103D 1082 1080 1050-1051
  1065 101E AA6C 101F 1081 AA6D 103E AA6E AA71 1020 A9FA 105C-105D 106F-1070 1066 1021-1026
  1052-1055 1027-102A 102C 1083 1072 109C 102D 1071 102E 1033 102F 1073-1074 1030 1056-1059 1031
  1084 1035 1085 1032 109D 1034 1062 1067-1068 A9E5 1086 1039-103A 1063-1064 1069-106D 1087 108B
  1088 108C-108D 1089-108A 108F 109A-109B AA7B-AA7D AA74-AA76 10D00 10D1D-10D21 10D01-10D1C
  10D22-10D23 11103-11123 11147 11124-11126 11144 11127-11132 11145-11146 11133-11134 1780-17A2
  17DC 17A3-17B3 17B6-17C5 17D2 1950-196D 1970-1974 1980-19AB 19B0-19C9 1A20-1A4C 1A53 1A6B
  1A55-1A57 1A5C-1A5E 1A4D-1A52 1A61 1A6C 1A62-1A63 1A65-1A6A 1A6E-1A6F 1A73 1A70-1A72 1A6D 1A60
  AA00-AA28 AA33-AA36 AA29-AA32 AA40-AA4D 1B05-1B13 1B45-1B46 1B14-1B22 1B47 1B23-1B27 1B48
  1B28-1B2F 1B49 1B30-1B32 1B4A-1B4B 1B33 1B35-1B44 A984-A9AA A9BE A9AB A9BF A9AD-A9B2 A9B4 A9BC
  A9B6-A9B9 A9BD A9BA-A9BB A9C0 1880-1886 1843 1820 1887 1821 1844 185D 1822 1845 185E 1873 1888
  185F 1823 1846 1824 1847 1861 1825 1848 1826 1849 1860 1827-1829 184A 1862 188A 189B 182A 184B
  182B 184C 1866 182C 184D 182D 184E 1864 189A 1865 182E 184F 182F-1831 1867 189C-189D 18A2
  18A4-18A5 1832 1850 1868 1833 1851 1869 1834 1852 1871 1878 185C 188B 1835 1853 186A 1877 1836
  1855 1872 1837 1875 1838 1856 1839 186B 1876 183A 1857 1863 1874 1889 183B-183C 1854 186E 183D
  186F 1858 186C 183E 1859 186D 183F-1842 185A-185B 1870 188C 189E 188D-188E 189F 188F-1890 1898
  18A0 1891 18A1 1892-1893 18A8 1894 18A3 1895 1899 1896-1897 18A6-18A7 18AA 18A9 1C5A-1C7D
  AB70-ABBF 13F8-13FD 104D8-104FB 1401-157B 157D 166F 157E-158D 1670 158E-1595 1671-1676
  1596-15A6 157C 15A7-166C 1677-167F 18B0-18F5 1681-169A 16A0 16A2 16A6 16A8 16F4 16AF-16B2 16F1
  16B7 16B9-16BA 16BE 16C1 16F5 16C3 16C5 16C7-16CA 16F2 16CF 16D2 16D6 16F6 16D7 16DA 16DC
  16DE-16DF 16F3 16AA 16F7 16AB 16F8 16A3 16E0 16E3 16B8 16E4 16E1-16E2 16E5-16E6 10CC0
  10CC2-10CC9 10CCC-10CD0 10CD2-10CDB 10CDD 10CE0-10CE2 10CE4-10CEA 10CEC 10CEE-10CF2 10C00
  10C02-10C03 10C05-10C07 10C09 10C0B 10C0D 10C0F 10C11 10C13-10C14 10C16 10C18 10C1A 10C1C 10C1E
  10C20-10C24 10C26 10C28 10C2A 10C2C-10C2D 10C2F-10C32 10C34 10C36 10C38 10C3A 10C3C-10C3F 10C41
  10C43 10C45 10C47-10C48 A500-A60C A6A0-A6EF 16800-16A38 16AD0-16AED 1E800-1E8C4 16E60-16E7F
  1E922-1E943 1E94B 1100-115E A960-A97C 115F-11A7 D7B0-D7C6 11A8-11FF D7CB-D7FB 3042 3044 3046
  1B000 3048 304A-304B 304D 304F 3051 3053 3055 3057 3059 305B 305D 305F 3061 3064 3066 3068
  306A-306F 3072 3075 3078 307B 307E-3082 3084 3086 3088-308D 308F-3093 1B002-1B00E 1B001
  1B00F-1B11E 3105-3107 31AC 3108 312A 3109-310B 312F 310C-310E 312B 31AD 310F-3112 312C
  31BC-31BD 3113-3119 31B8-31BA 311A-311B 31A6 311C-311D 31A4 311E-3124 31B2 3125 31B0-31B1
  3126-3129 312D 31BE-31BF A000-A48C A4F8-A4FB A4FD A4FC A4D0-A4E9 A4EB A4ED A4EA A4EC 11FB0
  A4EE-A4F7 16F00-16F03 16F45 16F04-16F05 16F07-16F0D 16F48 16F0E-16F0F 16F4A 16F10-16F12
  16F14-16F24 16F26-16F32 16F47 16F33 16F46 16F34-16F39 16F49 16F3A-16F3E 16F40-16F44 16F50-16F53
  16F4F 16F54-16F58 16F81 16F59-16F5C 16F83 16F5D-16F60 16F84 16F61-16F65 16F86 16F66-16F6D 16F7F
  16F87 16F6E-16F72 16F80 16F73-16F74 16F85 16F82 16F75-16F7E 16F8F-16F9F 118FF 118C0-118DF
  11AD5-11ADB 11AC0-11AD4 11ADC-11ADD 11ADF-11AE3 11ADE 11AE4 11AEF 11AF2 11AF1 11AE6 11AE9 11AE5
  11AE8 11AF4 11AF7 11AF3 11AF6 11AEC 11AEE 11AEB 11AED 11AF5 11AF8 11AE7 11AEA 11AF0 16B00-16B2F
  16B40-16B41 16B63-16B77 16B7D-16B8F 1E100-1E12C 1E137-1E13B 1E14E 1E2C0-1E2EB 10280-1029C
  102A0-102D0 10920-10939 10300-1030E 1031F 1030F-1031E 1032D-1034A 10428-1047F 1BC00-1BC6A
  1BC70-1BC7C 1BC80-1BC88 1BC90-1BC99 10480-1049D 10500-10527 10530-10563 110D0-110E8 16A40-16A5E
  10000-1000B 1000D-10026 10028-1003A 1003C-1003D 1003F-1004D 10050-1005D 10080-100FA 10600-10736
  10740-10755 10760-10767 10800-10805 10808 1080A-10835 10837-10838 1083C 1083F 10A60-10A7C
  10A80-10A9C 10B00-10B2D 10B2F-10B35 10860-1086C 1086E-10876 10881 10883-10885 10887-1088B 1088D
  1088F 10891 10893 10895-1089B 1089D-1089E 108E0-108F2 108F4-108F5 10840-10855 10B40-10B55
  10B60-10B72 10B80-10B91 10FE0-10FF5 10AC0-10AC7 10AC9-10AE4 10F00 10F02 10F04-10F05 10F07-10F0E
  10F11-10F12 10F14-10F15 10F18-10F1A 10F30-10F44 10E80-10EA0 10EB0 10EA1-10EA8 10EB1 10EA9
  10FB0-10FC4 10380-1039D 103A0-103C3 103C8-103CF 12000-12262 122D4-122D5 12263-122D3 122D6-12399
  12480-12543 13000-1342E 109A0-109AF 109B1-109B7 109BE-109BF 1099E-1099F 14400-14646 FFFD"

/-- The ends of the runs beyond ASCII and the places of their first characters. Behind an ASCII
character the places start from its own. -/
def placeRuns (place : Nat) : List (Nat × Nat) → List (Nat × Nat × Nat)
  | [] => []
  | (first, last) :: runs =>
    match asciiPlace? (Char.ofNat first) with
    | some place => placeRuns (place + 1) runs
    | none => (first, last, place) :: placeRuns (place + (last - first) + 1) runs

/-- The places of `orderTable`. -/
def places : List (Nat × Nat × Nat) := placeRuns 1 (pairs orderTable)

/-- The place of a character that has one of its own. -/
def place? (c : Char) : Option Nat :=
  if c.toNat < 128 then asciiPlace? c
  else
    (places.find? fun (first, last, _) => first ≤ c.toNat && c.toNat ≤ last).map
      fun (first, _, place) => place + (c.toNat - first)

/-- The place of a character that the table does not hold. The common ideographs come first, then
the rare ones, then everything else. -/
def remotePlace (c : Char) : Nat :=
  let block :=
    if isIn [(0x4E00, 0x9FFF), (0xFA0E, 0xFA29)] c then 1
    else if isIn [(0x3400, 0x4DBF), (0x20000, 0x323AF)] c then 2
    else 3
  block * 0x1000000 + c.toNat

/-- The marks in their order. Marks in one word share a place. -/
def markTable : String :=
  "0332 0313+0486+2CF1 0314+0485+2CF0 0301+0954 0300+0953 0306 0302 030C 030A 0342 0308 030B 0303
  0307 0338 0327 0328 0304
  030D-030E+0312+0315+031A+033D-033F+0346+034A-034C+0350-0352+0357+035B+035D-035E+0484+0487+" ++
  "0741+0745+0B55+17CB-17D1+17DD+1AB0-1AB4+1ABB-1ABC+1DC0-1DC1+1DC3-1DC9+1DCB-1DCE+1DD1+" ++
  "1DF5-1DF8+1DFB+1DFE+20F0+2CEF+A67C-A67D+10AE5+10D24-10D27+10F48-10F4A+10F4C+1BC9D
  0316-0319+031C-0320+0329-032C+032F+0333+033A-033C+0347-0349+034D-034E+0353-0356+0359-035A+" ++
  "035C+035F+0362+0742+0746+07FD+0859-085B+1AB5-1ABA+1ABD+1DC2+1DCF-1DD0+1DF9+1DFC-1DFD+1DFF+" ++
  "20EC-20EF+FE27+10A0D+10AE6+10F46-10F47+10F4B+10F4D-10F50
  0336-0337+20D8-20DA+20E5+20EA-20EB+1BC9E 1ABE+20DD-20E0+20E2-20E4 3099+FF9E 309A+FF9F 0335 0305
  0309 030F 0310 0311 031B 0321 0322 0323 0324 0325 0326 032D 032E 0330 0331 0334 0339 0345 0358
  0360+FE22+FE29 0361+FE20 0483+FE2E A66F 05B0 05B1 05B2 05B3 05B4 05B5 05B6 05B7 05B8+05C7
  05B9-05BA 05BB 05C2 05C1 05BC 05BF FB1E 081C-081D 081E-0820 0821-0823 0824-0825 0826-0827
  0828-082A 082B 082C 0818 0819 082D 064B+FE70-FE71 08F0 08E7 064C+FE72 08F1 08E8 064D+FE74 08F2
  08E9 064E+FE76-FE77 08E4 08F4 08F5 064F+FE78-FE79 08E5 08FE 0650+FE7A-FE7B 08E6 08F6
  0651+0AFB+FE7C-FE7D+11237 0652+0AFA+FE7E-FE7F+1123E 0653+0AFC+10EAC 0654+10EAB 0655 065F 0656
  0657 0658 08FF 0659 065A 065B 065C 065D 065E 08E3 08F7 08F8 08FD 08FB 08FC 08F9 08FA 0670 0711
  0730 0731 0732 0733 0734 0735 0736 0737 0738 0739 073A 073B 073C 073D 073E 073F 07EB 07EC 07ED
  07EE 07EF 07F0 07F1 07F2 07F3 135F 135E 135D A6F0 A6F1 16AF0 16AF1 16AF2 16AF3 16AF4
  1E944-1E946 1E94A 1E947 1E948 1E949
  093C+09BC+0A3C+0ABC+0AFD-0AFF+0B3C+0CBC+1B34+1BE6+1C37+A9B3+110BA+11173+111CA+11236+112E9+" ++
  "1133B-1133C+11446+114C3+115C0+116B7+1183A+11943+11A33+11D42
  0900-0901+0981+0A01+0A81+0B01+0C00-0C01+0C81+0D01+0D81+1B00-1B01+A8C5+A980+11000+11080+11100+" ++
  "11180+111CF+11301+11443+114BF+115BC+11640+1193C+11A35-11A37+11C3C+11CB6+11D43
  0902+0982+0A02+0A82+0B02+0B82+0C02+0C04+0C82+0D00+0D02+0D82+0F7E+1036+17C6+1A74+1B02+1B80+" ++
  "1CED+A80B+A880+A981+10A0E+11001+11081+11101+11181+11234+112DF+11300+11302+11444+114C0+115BD+" ++
  "1163D+116AB+11837+1193B+119DE+11A38+11A96+11C3D+11CB5+11D40+11D95
  0903+0983+0A03+0A83+0B03+0C03+0C83+0D03+0D83+0F7F+1038+17C7+1B04+1B82+1CF2-1CF3+A881+A983+" ++
  "10A0F+11002+11082+11102+11182+11303+11445+114C1+115BE+1163E+116AC+11838+119DF+11A39+11A97+" ++
  "11C3E+11D41+11D96
  09FE+111C9+1145E 0A70 0A71 1B03 A982 1B81 ABEC 10A38 10A39 10A3A 111CB 111CC 11A98 0E4E 0E47
  0E48 0E49 0E4A 0E4B 0E4C 0E4D 0EC8 0EC9 0ECA 0ECB 0ECC 0ECD AABF AAC1 0F39 A92B A92C A92D 1037
  17C8 17C9 17CA 1A75 1A76 1A77 1A78 1A79 1A7A 1A7B 1A7C 1939 193A 193B 16B30+1E131 16B31+1E136
  16B32+1E132 16B33+1E133 16B34+1E130 16B35+1E134 16B36+1E135 1E2EC 1E2ED 1E2EE 1E2EF 302A 302B
  302C 302D 302E 302F 16FF0 16FF1 20D0 20D1 20D2-20D3 20D4 20D5 20D6 20D7 20DB 20DC 20E1 20E6
  20E7 20E8 20E9 101FD"

/-- The runs of marks, place by place. -/
def markPlaces : List (List (Nat × Nat)) :=
  (words markTable).map fun word => (pieces '+' word).map pair

/-- The place of a mark among the marks. -/
def markPlace? (c : Char) : Option Nat :=
  markPlaces.findIdx? (isIn · c)

/-- Characters beyond ASCII that count for nothing. -/
def ignoredRuns : List (Nat × Nat) :=
  pairs
    "0080-0084 0086-009F 00AD 034F 0488-0489 0591-05AF 05BD 05C4-05C5 0600-0605 0610-061A 061C
    0640 06D6-06DD 06DF-06E4 06E7-06E8 06EA-06ED 070F 0740 0743-0744 0747-074A 07FA 08D3-08E2
    08EA-08EF 08F3 0951-0952 0F18-0F19 0F35 0F37 0F3E-0F3F 0F82-0F83 0F86-0F87 0FC6 17B4-17B5
    17D3 180A-180E 1A7F 1B6B-1B73 1CD0-1CE8 1CF4 1CF7-1CF9 200B-200F 202A-202E 2060-2064
    2066-206F 2D7F A670-A672 A8E0-A8F1 FE00-FE0F FE21 FE23-FE26 FE28 FE2A-FE2D FE2F FE73 FEFF
    FFF9-FFFB 102E0 110BD 110CD 11366-1136C 11370-11374 13430-13438 16FE4 1BCA0-1BCA3 1D165-1D169
    1D16D-1D182 1D185-1D18B 1D1AA-1D1AD 1D242-1D244 1DA00-1DA36 1DA3B-1DA6C 1DA75 1DA84
    1DA9B-1DA9F 1DAA1-1DAAF 1E8D0-1E8D6 E0001 E0020-E007F E0100-E01EF"

/-- Whether a character counts for nothing. -/
def isIgnored (c : Char) : Bool :=
  if c.toNat < 128 then c.toNat < 32 && (asciiPlace? c).isNone || c.toNat == 127
  else isIn ignoredRuns c

end NamedQuery.Text
