import Formwork.Text.CodeTable

/-! # Mapping of internationalised domain names

What becomes of a character of a domain name before it is looked up: it stands,
it is dropped, it is replaced, or the name is refused. Characters that canonical
composition alone replaces count as standing here.
-/

namespace Formwork.DomainName

/-- What becomes of a character. -/
inductive Mapping where
  | stands
  | dropped
  | replaced (targets : List Nat)
  | refused
deriving DecidableEq

namespace Mapping

/-- The refused code points. -/
def refusedSet : CodeSet := CodeSet.ofHex
  "80 A0 378 37A 380 384 38B 38C 38D 38E 3A2 3A3 530 531 557 559 58B 58D 590 591 5C8 5D0
    5EB 5EF 5F5 606 61C 61D 6DD 6DE 70E 710 74B 74D 7B2 7C0 7FB 7FD 82E 830 83F 840 85C 85E
    85F 860 86B 870 890 897 8E2 8E3 984 985 98D 98F 991 993 9A9 9AA 9B1 9B2 9B3 9B6 9BA 9BC
    9C5 9C7 9C9 9CB 9CF 9D7 9D8 9DC 9DE 9DF 9E4 9E6 9FF A01 A04 A05 A0B A0F A11 A13 A29 A2A
    A31 A32 A34 A35 A37 A38 A3A A3C A3D A3E A43 A47 A49 A4B A4E A51 A52 A59 A5D A5E A5F A66
    A77 A81 A84 A85 A8E A8F A92 A93 AA9 AAA AB1 AB2 AB4 AB5 ABA ABC AC6 AC7 ACA ACB ACE AD0
    AD1 AE0 AE4 AE6 AF2 AF9 B00 B01 B04 B05 B0D B0F B11 B13 B29 B2A B31 B32 B34 B35 B3A B3C
    B45 B47 B49 B4B B4E B55 B58 B5C B5E B5F B64 B66 B78 B82 B84 B85 B8B B8E B91 B92 B96 B99
    B9B B9C B9D B9E BA0 BA3 BA5 BA8 BAB BAE BBA BBE BC3 BC6 BC9 BCA BCE BD0 BD1 BD7 BD8 BE6
    BFB C00 C0D C0E C11 C12 C29 C2A C3A C3C C45 C46 C49 C4A C4E C55 C57 C58 C5B C5C C5E C60
    C64 C66 C70 C77 C8D C8E C91 C92 CA9 CAA CB4 CB5 CBA CBC CC5 CC6 CC9 CCA CCE CD5 CD7 CDC
    CDF CE0 CE4 CE6 CF0 CF1 CF4 D00 D0D D0E D11 D12 D45 D46 D49 D4A D50 D54 D64 D66 D80 D81
    D84 D85 D97 D9A DB2 DB3 DBC DBD DBE DC0 DC7 DCA DCB DCF DD5 DD6 DD7 DD8 DE0 DE6 DF0 DF2
    DF5 E01 E3B E3F E5C E81 E83 E84 E85 E86 E8B E8C EA4 EA5 EA6 EA7 EBE EC0 EC5 EC6 EC7 EC8
    ECF ED0 EDA EDC EE0 F00 F48 F49 F6D F71 F98 F99 FBD FBE FCD FCE FDB 1000 10C6 10C7 10C8
    10CD 10CE 10D0 1249 124A 124E 1250 1257 1258 1259 125A 125E 1260 1289 128A 128E 1290
    12B1 12B2 12B6 12B8 12BF 12C0 12C1 12C2 12C6 12C8 12D7 12D8 1311 1312 1316 1318 135B
    135D 137D 1380 139A 13A0 13F6 13F8 13FE 1400 1680 1681 169D 16A0 16F9 1700 1716 171F
    1737 1740 1754 1760 176D 176E 1771 1772 1774 1780 17DE 17E0 17EA 17F0 17FA 1800 181A
    1820 1879 1880 18AB 18B0 18F6 1900 191F 1920 192C 1930 193C 1940 1941 1944 196E 1970
    1975 1980 19AC 19B0 19CA 19D0 19DB 19DE 1A1C 1A1E 1A5F 1A60 1A7D 1A7F 1A8A 1A90 1A9A
    1AA0 1AAE 1AB0 1ADE 1AE0 1AEC 1B00 1B4D 1B4E 1BF4 1BFC 1C38 1C3B 1C4A 1C4D 1C8B 1C90
    1CBB 1CBD 1CC8 1CD0 1CFB 1D00 1F16 1F18 1F1E 1F20 1F46 1F48 1F4E 1F50 1F58 1F59 1F5A
    1F5B 1F5C 1F5D 1F5E 1F5F 1F7E 1F80 1FB5 1FB6 1FC5 1FC6 1FD4 1FD6 1FDC 1FDD 1FF0 1FF2
    1FF5 1FF6 1FFF 2000 200E 2010 2024 2027 2028 202F 2065 206A 2072 2074 208F 2090 209D
    20A0 20C2 20D0 20F1 2100 218C 2190 242A 2440 244B 2460 2488 249C 2B74 2B76 2CF4 2CF9
    2D26 2D27 2D28 2D2D 2D2E 2D30 2D68 2D6F 2D71 2D7F 2D97 2DA0 2DA7 2DA8 2DAF 2DB0 2DB7
    2DB8 2DBF 2DC0 2DC7 2DC8 2DCF 2DD0 2DD7 2DD8 2DDF 2DE0 2E5E 2E80 2E9A 2E9B 2EF4 2F00
    2FD6 3000 3040 3041 3097 3099 3100 3105 3130 3131 318F 3190 31E6 31F0 321F 3220 33C2
    33C3 33C7 33C8 33D8 33D9 A48D A490 A4C7 A4D0 A62C A640 A6F8 A700 A7DD A7F1 A82D A830
    A83A A840 A878 A880 A8C6 A8CE A8DA A8E0 A954 A95F A97D A980 A9CE A9CF A9DA A9DE A9FF
    AA00 AA37 AA40 AA4E AA50 AA5A AA5C AAC3 AADB AAF7 AB01 AB07 AB09 AB0F AB11 AB17 AB20
    AB27 AB28 AB2F AB30 AB6C AB70 ABEE ABF0 ABFA AC00 D7A4 D7B0 D7C7 D7CB D7FC F900 FA6E
    FA70 FADA FB00 FB07 FB13 FB18 FB1D FB37 FB38 FB3D FB3E FB3F FB40 FB42 FB43 FB45 FB46
    FDD0 FDF0 FE12 FE13 FE19 FE20 FE30 FE31 FE52 FE54 FE67 FE68 FE6C FE70 FE75 FE76 FEFD
    FEFF FF00 FF01 FFBF FFC2 FFC8 FFCA FFD0 FFD2 FFD8 FFDA FFDD FFE0 FFE7 FFE8 FFEF 10000
    1000C 1000D 10027 10028 1003B 1003C 1003E 1003F 1004E 10050 1005E 10080 100FB 10100
    10103 10107 10134 10137 1018F 10190 1019D 101A0 101A1 101D0 101FE 10280 1029D 102A0
    102D1 102E0 102FC 10300 10324 1032D 1034B 10350 1037B 10380 1039E 1039F 103C4 103C8
    103D6 10400 1049E 104A0 104AA 104B0 104D4 104D8 104FC 10500 10528 10530 10564 1056F
    1057B 1057C 1058B 1058C 10593 10594 10596 10597 105A2 105A3 105B2 105B3 105BA 105BB
    105BD 105C0 105F4 10600 10737 10740 10756 10760 10768 10780 10786 10787 107B1 107B2
    107BB 10800 10806 10808 10809 1080A 10836 10837 10839 1083C 1083D 1083F 10856 10857
    1089F 108A7 108B0 108E0 108F3 108F4 108F6 108FB 1091C 1091F 1093A 1093F 1095A 10980
    109B8 109BC 109D0 109D2 10A04 10A05 10A07 10A0C 10A14 10A15 10A18 10A19 10A36 10A38
    10A3B 10A3F 10A49 10A50 10A59 10A60 10AA0 10AC0 10AE7 10AEB 10AF7 10B00 10B36 10B39
    10B56 10B58 10B73 10B78 10B92 10B99 10B9D 10BA9 10BB0 10C00 10C49 10C80 10CB3 10CC0
    10CF3 10CFA 10D28 10D30 10D3A 10D40 10D66 10D69 10D86 10D8E 10D90 10E60 10E7F 10E80
    10EAA 10EAB 10EAE 10EB0 10EB2 10EC2 10EC8 10ED0 10ED9 10EFA 10F28 10F30 10F5A 10F70
    10F8A 10FB0 10FCC 10FE0 10FF7 11000 1104E 11052 11076 1107F 110BD 110BE 110C3 110D0
    110E9 110F0 110FA 11100 11135 11136 11148 11150 11177 11180 111E0 111E1 111F5 11200
    11212 11213 11242 11280 11287 11288 11289 1128A 1128E 1128F 1129E 1129F 112AA 112B0
    112EB 112F0 112FA 11300 11304 11305 1130D 1130F 11311 11313 11329 1132A 11331 11332
    11334 11335 1133A 1133B 11345 11347 11349 1134B 1134E 11350 11351 11357 11358 1135D
    11364 11366 1136D 11370 11375 11380 1138A 1138B 1138C 1138E 1138F 11390 113B6 113B7
    113C1 113C2 113C3 113C5 113C6 113C7 113CB 113CC 113D6 113D7 113D9 113E1 113E3 11400
    1145C 1145D 11462 11480 114C8 114D0 114DA 11580 115B6 115B8 115DE 11600 11645 11650
    1165A 11660 1166D 11680 116BA 116C0 116CA 116D0 116E4 11700 1171B 1171D 1172C 11730
    11747 11800 1183C 118A0 118F3 118FF 11907 11909 1190A 1190C 11914 11915 11917 11918
    11936 11937 11939 1193B 11947 11950 1195A 119A0 119A8 119AA 119D8 119DA 119E5 11A00
    11A48 11A50 11AA3 11AB0 11AF9 11B00 11B0A 11B60 11B68 11BC0 11BE2 11BF0 11BFA 11C00
    11C09 11C0A 11C37 11C38 11C46 11C50 11C6D 11C70 11C90 11C92 11CA8 11CA9 11CB7 11D00
    11D07 11D08 11D0A 11D0B 11D37 11D3A 11D3B 11D3C 11D3E 11D3F 11D48 11D50 11D5A 11D60
    11D66 11D67 11D69 11D6A 11D8F 11D90 11D92 11D93 11D99 11DA0 11DAA 11DB0 11DDC 11DE0
    11DEA 11EE0 11EF9 11F00 11F11 11F12 11F3B 11F3E 11F5B 11FB0 11FB1 11FC0 11FF2 11FFF
    1239A 12400 1246F 12470 12475 12480 12544 12F90 12FF3 13000 13430 13440 13456 13460
    143FB 14400 14647 16100 1613A 16800 16A39 16A40 16A5F 16A60 16A6A 16A6E 16ABF 16AC0
    16ACA 16AD0 16AEE 16AF0 16AF6 16B00 16B46 16B50 16B5A 16B5B 16B62 16B63 16B78 16B7D
    16B90 16D40 16D7A 16E40 16E9B 16EA0 16EB9 16EBB 16ED4 16F00 16F4B 16F4F 16F88 16F8F
    16FA0 16FE0 16FE5 16FF0 16FF7 17000 18CD6 18CFF 18D1F 18D80 18DF3 1AFF0 1AFF4 1AFF5
    1AFFC 1AFFD 1AFFF 1B000 1B123 1B132 1B133 1B150 1B153 1B155 1B156 1B164 1B168 1B170
    1B2FC 1BC00 1BC6B 1BC70 1BC7D 1BC80 1BC89 1BC90 1BC9A 1BC9C 1BCA4 1CC00 1CCFD 1CD00
    1CEB4 1CEBA 1CED1 1CEE0 1CEF1 1CF00 1CF2E 1CF30 1CF47 1CF50 1CFC4 1D000 1D0F6 1D100
    1D127 1D129 1D1EB 1D200 1D246 1D2C0 1D2D4 1D2E0 1D2F4 1D300 1D357 1D360 1D379 1D400
    1D455 1D456 1D49D 1D49E 1D4A0 1D4A2 1D4A3 1D4A5 1D4A7 1D4A9 1D4AD 1D4AE 1D4BA 1D4BB
    1D4BC 1D4BD 1D4C4 1D4C5 1D506 1D507 1D50B 1D50D 1D515 1D516 1D51D 1D51E 1D53A 1D53B
    1D53F 1D540 1D545 1D546 1D547 1D54A 1D551 1D552 1D6A6 1D6A8 1D7CC 1D7CE 1DA8C 1DA9B
    1DAA0 1DAA1 1DAB0 1DF00 1DF1F 1DF25 1DF2B 1E000 1E007 1E008 1E019 1E01B 1E022 1E023
    1E025 1E026 1E02B 1E030 1E06E 1E08F 1E090 1E100 1E12D 1E130 1E13E 1E140 1E14A 1E14E
    1E150 1E290 1E2AF 1E2C0 1E2FA 1E2FF 1E300 1E4D0 1E4FA 1E5D0 1E5FB 1E5FF 1E600 1E6C0
    1E6DF 1E6E0 1E6F6 1E6FE 1E700 1E7E0 1E7E7 1E7E8 1E7EC 1E7ED 1E7EF 1E7F0 1E7FF 1E800
    1E8C5 1E8C7 1E8D7 1E900 1E94C 1E950 1E95A 1E95E 1E960 1EC71 1ECB5 1ED01 1ED3E 1EE00
    1EE04 1EE05 1EE20 1EE21 1EE23 1EE24 1EE25 1EE27 1EE28 1EE29 1EE33 1EE34 1EE38 1EE39
    1EE3A 1EE3B 1EE3C 1EE42 1EE43 1EE47 1EE48 1EE49 1EE4A 1EE4B 1EE4C 1EE4D 1EE50 1EE51
    1EE53 1EE54 1EE55 1EE57 1EE58 1EE59 1EE5A 1EE5B 1EE5C 1EE5D 1EE5E 1EE5F 1EE60 1EE61
    1EE63 1EE64 1EE65 1EE67 1EE6B 1EE6C 1EE73 1EE74 1EE78 1EE79 1EE7D 1EE7E 1EE7F 1EE80
    1EE8A 1EE8B 1EE9C 1EEA1 1EEA4 1EEA5 1EEAA 1EEAB 1EEBC 1EEF0 1EEF2 1F000 1F02C 1F030
    1F094 1F0A0 1F0AF 1F0B1 1F0C0 1F0C1 1F0D0 1F0D1 1F0F6 1F101 1F1AE 1F1E6 1F203 1F210
    1F23C 1F240 1F249 1F250 1F252 1F260 1F266 1F300 1F6D9 1F6DC 1F6ED 1F6F0 1F6FD 1F700
    1F7DA 1F7E0 1F7EC 1F7F0 1F7F1 1F800 1F80C 1F810 1F848 1F850 1F85A 1F860 1F888 1F890
    1F8AE 1F8B0 1F8BC 1F8C0 1F8C2 1F8D0 1F8D9 1F900 1FA58 1FA60 1FA6E 1FA70 1FA7D 1FA80
    1FA8B 1FA8E 1FAC7 1FAC8 1FAC9 1FACD 1FADD 1FADF 1FAEB 1FAEF 1FAF9 1FB00 1FB93 1FB94
    1FBFB 20000 2A6E0 2A700 2B81E 2B820 2CEAE 2CEB0 2EBE1 2EBF0 2EE5E 2F800 2FA1E 30000
    3134B 31350 3347A E0100 E01F0"

/-- The dropped code points. -/
def droppedSet : CodeSet := CodeSet.ofHex
  "AD AE 34F 350 115F 1161 17B4 17B6 180B 1810 200B 200C 2060 2065 206A 2070 3164 3165
    FE00 FE10 FEFF FF00 FFA0 FFA1 1BCA0 1BCA4 1D173 1D17B E0100 E01F0"

/-- Stretches replaced by one code point each: the distance to the last code
point, the step between code points, and the replacement of the first; the
replacements advance with the code points. -/
def shifts : CodeTable := CodeTable.ofHex
  "41 19 1 61;5F 0 1 20;A 0 1 61;8 1 1 32;3 0 1 3BC;4 0 1 31;1 0 1 6F;6 16 1 E0;18 6 1 F8;
    28 2E 2 101;34 2 2 135;5 4 2 13A;8 6 2 142;9 2C 2 14B;2E 0 1 FF;1 4 2 17A;6 0 1 73;
    2 0 1 253;1 2 2 183;4 0 1 254;1 0 1 188;2 1 1 256;2 0 1 18C;3 0 1 1DD;1 0 1 259;1 0 1 25B;
    1 0 1 192;2 0 1 260;1 0 1 263;2 0 1 269;1 0 1 268;1 0 1 199;4 0 1 26F;1 0 1 272;2 0 1 275;
    1 4 2 1A1;6 0 1 280;1 0 1 1A8;2 0 1 283;3 0 1 1AD;2 0 1 288;1 0 1 1B0;2 1 1 28A;2 2 2 1B4;
    4 0 1 292;1 0 1 1B9;4 0 1 1BD;11 E 2 1CE;11 10 2 1DF;16 0 1 1F5;2 0 1 195;1 0 1 1BF;
    1 26 2 1F9;28 0 1 19E;2 10 2 223;18 0 1 2C65;1 0 1 23C;2 0 1 19A;1 0 1 2C66;3 0 1 242;
    2 0 1 180;1 0 1 289;1 0 1 28C;1 8 2 247;6A 0 1 68;1 0 1 266;1 0 1 6A;1 0 1 72;1 0 1 279;
    1 0 1 27B;1 0 1 281;1 0 1 77;1 0 1 79;28 0 1 263;1 0 1 6C;1 0 1 73;1 0 1 78;1 0 1 295;
    61 0 1 3B9;2B 2 2 371;6 0 1 377;9 0 1 3F3;7 0 1 3AC;2 2 1 3AD;4 0 1 3CC;2 1 1 3CD;
    3 10 1 3B1;12 8 1 3C3;2C 0 1 3D7;1 0 1 3B2;1 0 1 3B8;1 0 1 3C5;1 0 1 3CD;1 0 1 3CB;
    1 0 1 3C6;1 0 1 3C0;2 16 2 3D9;18 0 1 3BA;1 0 1 3C1;1 0 1 3C3;2 0 1 3B8;1 0 1 3B5;
    2 0 1 3F8;2 0 1 3C3;1 0 1 3FB;3 2 1 37B;3 F 1 450;10 1F 1 430;50 20 2 461;2A 34 2 48B;
    36 0 1 4CF;1 C 2 4C2;F 5E 2 4D1;61 25 1 561;9DB 0 1 F0B;194 25 1 2D00;27 0 1 2D27;
    6 0 1 2D2D;2F 0 1 10DC;2FC 5 1 13F0;888 0 1 432;1 0 1 434;1 0 1 43E;1 1 1 441;2 0 1 442;
    1 0 1 44A;1 0 1 463;1 0 1 A64B;1 0 1 1C8A;7 2A 1 10D0;2D 2 1 10FD;6F 0 1 61;1 0 1 E6;
    1 2 2 62;3 0 1 65;1 0 1 1DD;1 7 1 67;9 0 1 6F;1 0 1 223;1 0 1 70;1 0 1 72;1 1 1 74;
    2 0 1 77;1 0 1 61;1 1 1 250;2 0 1 1D02;1 0 1 62;1 1 1 64;2 0 1 259;1 1 1 25B;2 0 1 67;
    2 0 1 6B;1 0 1 6D;1 0 1 14B;1 0 1 6F;1 0 1 254;1 1 1 1D16;2 0 1 70;1 1 1 74;2 0 1 1D1D;
    1 0 1 26F;1 0 1 76;1 0 1 1D25;1 2 1 3B2;3 1 1 3C6;2 0 1 69;1 0 1 72;1 1 1 75;2 1 1 3B2;
    2 0 1 3C1;1 1 1 3C6;F 0 1 43D;23 0 1 252;1 0 1 63;1 0 1 255;1 0 1 F0;1 0 1 25C;1 0 1 66;
    1 0 1 25F;1 0 1 261;1 0 1 265;1 2 1 268;3 0 1 1D7B;1 0 1 29D;1 0 1 26D;1 0 1 1D85;
    1 0 1 29F;1 0 1 271;1 0 1 270;1 3 1 272;4 0 1 278;1 1 1 282;2 0 1 1AB;1 1 1 289;
    2 0 1 1D1C;1 1 1 28B;2 0 1 7A;1 2 1 290;3 0 1 3B8;41 94 2 1E01;9B 0 1 1E61;3 0 1 DF;
    2 5E 2 1EA1;68 7 1 1F00;10 5 1 1F10;10 7 1 1F20;10 7 1 1F30;10 5 1 1F40;11 6 2 1F51;
    F 7 1 1F60;50 1 1 1FB0;2 0 1 1F70;1 0 1 3AC;D 0 1 1F72;1 0 1 3AD;1 0 1 1F74;1 0 1 3AE;
    D 1 1 1FD0;2 0 1 1F76;1 0 1 3AF;D 1 1 1FE0;2 0 1 1F7A;1 0 1 3CD;1 0 1 1FE5;C 0 1 1F78;
    1 0 1 3CC;1 0 1 1F7C;1 0 1 3CE;5 0 1 20;1 0 1 20;1 0 1 20;1 0 1 20;1 0 1 20;1 0 1 20;
    1 0 1 20;1 0 1 20;1 0 1 20;1 0 1 20;1 0 1 20;7 0 1 2010;1E 0 1 20;30 0 1 20;11 0 1 30;
    1 0 1 69;3 5 1 34;6 0 1 2B;1 0 1 2212;1 0 1 3D;1 1 1 28;2 0 1 6E;1 9 1 30;A 0 1 2B;
    1 0 1 2212;1 0 1 3D;1 1 1 28;3 0 1 61;1 0 1 65;1 0 1 6F;1 0 1 78;1 0 1 259;1 0 1 68;
    1 3 1 6B;4 0 1 70;1 1 1 73;67 0 1 63;5 0 1 25B;3 1 1 67;2 0 1 68;1 0 1 68;1 0 1 68;
    1 0 1 127;1 0 1 69;1 0 1 69;1 0 1 6C;1 2 2 6C;6 2 1 70;3 0 1 72;1 0 1 72;7 0 1 7A;
    2 0 1 3C9;2 0 1 7A;2 0 1 6B;1 0 1 E5;1 1 1 62;3 0 1 65;1 1 1 65;2 0 1 214E;1 0 1 6D;
    1 0 1 6F;1 3 1 5D0;4 0 1 69;3 0 1 3C0;1 0 1 3B3;1 0 1 3B3;1 0 1 3C0;1 0 1 2211;5 0 1 64;
    1 1 1 64;2 1 1 69;18 0 1 69;4 0 1 76;5 0 1 78;3 0 1 6C;1 1 1 63;2 0 1 6D;1 0 1 69;
    4 0 1 76;5 0 1 78;3 0 1 6C;1 1 1 63;2 0 1 6D;4 0 1 2184;2DD 8 1 31;56 19 1 61;1A 19 1 61;
    1A 0 1 30;716 2F 1 2C30;60 0 1 2C61;2 0 1 26B;1 0 1 1D7D;1 0 1 27D;3 4 2 2C68;6 0 1 251;
    1 0 1 271;1 0 1 250;1 0 1 252;2 0 1 2C73;3 0 1 2C76;7 0 1 6A;1 0 1 76;1 1 1 23F;
    2 62 2 2C81;6B 2 2 2CEC;7 0 1 2CF3;7D 0 1 2D61;130 0 1 6BCD;54 0 1 9F9F;D 0 1 4E00;
    1 0 1 4E28;1 0 1 4E36;1 0 1 4E3F;1 0 1 4E59;1 0 1 4E85;1 0 1 4E8C;1 0 1 4EA0;1 0 1 4EBA;
    1 0 1 513F;1 0 1 5165;1 0 1 516B;1 0 1 5182;1 0 1 5196;1 0 1 51AB;1 0 1 51E0;1 0 1 51F5;
    1 0 1 5200;1 0 1 529B;1 0 1 52F9;1 0 1 5315;1 0 1 531A;1 0 1 5338;1 0 1 5341;1 0 1 535C;
    1 0 1 5369;1 0 1 5382;1 0 1 53B6;1 0 1 53C8;1 0 1 53E3;1 0 1 56D7;1 0 1 571F;1 0 1 58EB;
    1 0 1 5902;1 0 1 590A;1 0 1 5915;1 0 1 5927;1 0 1 5973;1 0 1 5B50;1 0 1 5B80;1 0 1 5BF8;
    1 0 1 5C0F;1 0 1 5C22;1 0 1 5C38;1 0 1 5C6E;1 0 1 5C71;1 0 1 5DDB;1 0 1 5DE5;1 0 1 5DF1;
    1 0 1 5DFE;1 0 1 5E72;1 0 1 5E7A;1 0 1 5E7F;1 0 1 5EF4;1 0 1 5EFE;1 0 1 5F0B;1 0 1 5F13;
    1 0 1 5F50;1 0 1 5F61;1 0 1 5F73;1 0 1 5FC3;1 0 1 6208;1 0 1 6236;1 0 1 624B;1 0 1 652F;
    1 0 1 6534;1 0 1 6587;1 0 1 6597;1 0 1 65A4;1 0 1 65B9;1 0 1 65E0;1 0 1 65E5;1 0 1 66F0;
    1 0 1 6708;1 0 1 6728;1 0 1 6B20;1 0 1 6B62;1 0 1 6B79;1 0 1 6BB3;1 0 1 6BCB;1 0 1 6BD4;
    1 0 1 6BDB;1 0 1 6C0F;1 0 1 6C14;1 0 1 6C34;1 0 1 706B;1 0 1 722A;1 0 1 7236;1 0 1 723B;
    1 0 1 723F;1 0 1 7247;1 0 1 7259;1 0 1 725B;1 0 1 72AC;1 0 1 7384;1 0 1 7389;1 0 1 74DC;
    1 0 1 74E6;1 0 1 7518;1 0 1 751F;1 0 1 7528;1 0 1 7530;1 0 1 758B;1 0 1 7592;1 0 1 7676;
    1 0 1 767D;1 0 1 76AE;1 0 1 76BF;1 0 1 76EE;1 0 1 77DB;1 0 1 77E2;1 0 1 77F3;1 0 1 793A;
    1 0 1 79B8;1 0 1 79BE;1 0 1 7A74;1 0 1 7ACB;1 0 1 7AF9;1 0 1 7C73;1 0 1 7CF8;1 0 1 7F36;
    1 0 1 7F51;1 0 1 7F8A;1 0 1 7FBD;1 0 1 8001;1 0 1 800C;1 0 1 8012;1 0 1 8033;1 0 1 807F;
    1 0 1 8089;1 0 1 81E3;1 0 1 81EA;1 0 1 81F3;1 0 1 81FC;1 0 1 820C;1 0 1 821B;1 0 1 821F;
    1 0 1 826E;1 0 1 8272;1 0 1 8278;1 0 1 864D;1 0 1 866B;1 0 1 8840;1 0 1 884C;1 0 1 8863;
    1 0 1 897E;1 0 1 898B;1 0 1 89D2;1 0 1 8A00;1 0 1 8C37;1 0 1 8C46;1 0 1 8C55;1 0 1 8C78;
    1 0 1 8C9D;1 0 1 8D64;1 0 1 8D70;1 0 1 8DB3;1 0 1 8EAB;1 0 1 8ECA;1 0 1 8F9B;1 0 1 8FB0;
    1 0 1 8FB5;1 0 1 9091;1 0 1 9149;1 0 1 91C6;1 0 1 91CC;1 0 1 91D1;1 0 1 9577;1 0 1 9580;
    1 0 1 961C;1 0 1 96B6;1 0 1 96B9;1 0 1 96E8;1 0 1 9751;1 0 1 975E;1 0 1 9762;1 0 1 9769;
    1 0 1 97CB;1 0 1 97ED;1 0 1 97F3;1 0 1 9801;1 0 1 98A8;1 0 1 98DB;1 0 1 98DF;1 0 1 9996;
    1 0 1 9999;1 0 1 99AC;1 0 1 9AA8;1 0 1 9AD8;1 0 1 9ADF;1 0 1 9B25;1 0 1 9B2F;1 0 1 9B32;
    1 0 1 9B3C;1 0 1 9B5A;1 0 1 9CE5;1 0 1 9E75;1 0 1 9E7F;1 0 1 9EA5;1 0 1 9EBB;1 0 1 9EC3;
    1 0 1 9ECD;1 0 1 9ED1;1 0 1 9EF9;1 0 1 9EFD;1 0 1 9F0E;1 0 1 9F13;1 0 1 9F20;1 0 1 9F3B;
    1 0 1 9F4A;1 0 1 9F52;1 0 1 9F8D;1 0 1 9F9C;1 0 1 9FA0;2B 0 1 20;2 0 1 2E;34 0 1 3012;
    2 0 1 5341;1 1 1 5344;F8 1 1 1100;2 0 1 11AA;1 0 1 1102;1 1 1 11AC;2 2 1 1103;3 5 1 11B0;
    6 0 1 111A;1 2 1 1106;3 0 1 1121;1 9 1 1109;A 14 1 1161;16 1 1 1114;2 1 1 11C7;2 0 1 11CC;
    1 0 1 11CE;1 0 1 11D3;1 0 1 11D7;1 0 1 11D9;1 0 1 111C;1 0 1 11DD;1 0 1 11DF;1 1 1 111D;
    2 0 1 1120;1 1 1 1122;2 0 1 1127;1 0 1 1129;1 4 1 112B;5 0 1 1132;1 0 1 1136;1 0 1 1140;
    1 0 1 1147;1 0 1 114C;1 1 1 11F1;2 2 1 1157;3 1 1 1184;2 0 1 1188;1 1 1 1191;2 0 1 1194;
    1 0 1 119E;1 0 1 11A1;4 0 1 4E00;1 0 1 4E8C;1 0 1 4E09;1 0 1 56DB;1 0 1 4E0A;1 0 1 4E2D;
    1 0 1 4E0B;1 0 1 7532;1 0 1 4E59;1 0 1 4E19;1 0 1 4E01;1 0 1 5929;1 0 1 5730;1 0 1 4EBA;
    A5 0 1 554F;1 0 1 5E7C;1 0 1 6587;1 0 1 7B8F;19 0 1 1100;1 1 1 1102;2 2 1 1105;3 0 1 1109;
    1 1 1 110B;2 4 1 110E;5 0 1 AC00;1 0 1 B098;1 0 1 B2E4;1 0 1 B77C;1 0 1 B9C8;1 0 1 BC14;
    1 0 1 C0AC;1 0 1 C544;1 0 1 C790;1 0 1 CC28;1 0 1 CE74;1 0 1 D0C0;1 0 1 D30C;1 0 1 D558;
    3 0 1 C6B0;2 0 1 4E00;1 0 1 4E8C;1 0 1 4E09;1 0 1 56DB;1 0 1 4E94;1 0 1 516D;1 0 1 4E03;
    1 0 1 516B;1 0 1 4E5D;1 0 1 5341;1 0 1 6708;1 0 1 706B;1 0 1 6C34;1 0 1 6728;1 0 1 91D1;
    1 0 1 571F;1 0 1 65E5;1 0 1 682A;1 0 1 6709;1 0 1 793E;1 0 1 540D;1 0 1 7279;1 0 1 8CA1;
    1 0 1 795D;1 0 1 52B4;1 0 1 79D8;1 0 1 7537;1 0 1 5973;1 0 1 9069;1 0 1 512A;1 0 1 5370;
    1 0 1 6CE8;1 0 1 9805;1 0 1 4F11;1 0 1 5199;1 0 1 6B63;1 0 1 4E0A;1 0 1 4E2D;1 0 1 4E0B;
    1 0 1 5DE6;1 0 1 53F3;1 0 1 533B;1 0 1 5B97;1 0 1 5B66;1 0 1 76E3;1 0 1 4F01;1 0 1 8CC7;
    1 0 1 5354;1 0 1 591C;20 0 1 30A2;1 0 1 30A4;1 0 1 30A6;1 0 1 30A8;1 1 1 30AA;2 0 1 30AD;
    1 0 1 30AF;1 0 1 30B1;1 0 1 30B3;1 0 1 30B5;1 0 1 30B7;1 0 1 30B9;1 0 1 30BB;1 0 1 30BD;
    1 0 1 30BF;1 0 1 30C1;1 0 1 30C4;1 0 1 30C6;1 0 1 30C8;1 5 1 30CA;6 0 1 30D2;1 0 1 30D5;
    1 0 1 30D8;1 0 1 30DB;1 4 1 30DE;5 0 1 30E4;1 0 1 30E6;1 5 1 30E8;6 3 1 30EF;
    7345 2C 2 A641;40 1A 2 A681;1C 0 1 44A;1 0 1 44C;85 C 2 A723;10 3C 2 A733;3E 0 1 A76F;
    9 2 2 A77A;4 0 1 1D79;1 8 2 A77F;D 0 1 A78C;2 0 1 265;3 2 2 A791;6 12 2 A797;14 0 1 266;
    1 0 1 25C;1 0 1 261;1 0 1 26C;1 0 1 26A;2 0 1 29E;1 0 1 287;1 0 1 29D;1 0 1 AB53;
    1 E 2 A7B5;10 0 1 A794;1 0 1 282;1 0 1 1D8E;1 2 2 A7C8;4 0 1 264;1 E 2 A7CD;10 0 1 19B;
    15 0 1 73;1 0 1 63;1 0 1 66;1 0 1 71;1 0 1 A7F6;3 0 1 127;1 0 1 153;363 0 1 A727;
    1 0 1 AB37;1 0 1 26B;1 0 1 AB52;A 0 1 28D;7 4F 1 13A0;4FB0 0 1 5E2;1 0 1 5D0;1 1 1 5D3;
    2 2 1 5DB;3 0 1 5E8;1 0 1 5EA;1 0 1 2B;27 0 1 671;1 0 1 671;1 0 1 67B;1 0 1 67B;1 0 1 67B;
    1 0 1 67B;1 0 1 67E;1 0 1 67E;1 0 1 67E;1 0 1 67E;1 0 1 680;1 0 1 680;1 0 1 680;1 0 1 680;
    1 0 1 67A;1 0 1 67A;1 0 1 67A;1 0 1 67A;1 0 1 67F;1 0 1 67F;1 0 1 67F;1 0 1 67F;1 0 1 679;
    1 0 1 679;1 0 1 679;1 0 1 679;1 0 1 6A4;1 0 1 6A4;1 0 1 6A4;1 0 1 6A4;1 0 1 6A6;1 0 1 6A6;
    1 0 1 6A6;1 0 1 6A6;1 0 1 684;1 0 1 684;1 0 1 684;1 0 1 684;1 0 1 683;1 0 1 683;1 0 1 683;
    1 0 1 683;1 0 1 686;1 0 1 686;1 0 1 686;1 1 1 686;2 0 1 687;1 0 1 687;1 0 1 687;1 0 1 68D;
    1 0 1 68D;1 0 1 68C;1 0 1 68C;1 0 1 68E;1 0 1 68E;1 0 1 688;1 0 1 688;1 0 1 698;1 0 1 698;
    1 0 1 691;1 0 1 691;1 0 1 6A9;1 0 1 6A9;1 0 1 6A9;1 0 1 6A9;1 0 1 6AF;1 0 1 6AF;1 0 1 6AF;
    1 0 1 6AF;1 0 1 6B3;1 0 1 6B3;1 0 1 6B3;1 0 1 6B3;1 0 1 6B1;1 0 1 6B1;1 0 1 6B1;1 0 1 6B1;
    1 0 1 6BA;1 1 1 6BA;2 0 1 6BB;1 0 1 6BB;1 0 1 6BB;1 0 1 6C0;1 1 1 6C0;2 0 1 6C1;1 0 1 6C1;
    1 0 1 6C1;1 0 1 6BE;1 0 1 6BE;1 0 1 6BE;1 0 1 6BE;1 0 1 6D2;1 1 1 6D2;2 0 1 6D3;
    22 0 1 6AD;1 0 1 6AD;1 0 1 6AD;1 0 1 6AD;1 0 1 6C7;1 0 1 6C7;1 0 1 6C6;1 0 1 6C6;
    1 0 1 6C8;1 0 1 6C8;2 0 1 6CB;1 0 1 6CB;1 0 1 6C5;1 0 1 6C5;1 0 1 6C9;1 0 1 6C9;1 0 1 6D0;
    1 0 1 6D0;1 0 1 6D0;1 0 1 6D0;1 0 1 649;1 0 1 649;13 0 1 6CC;1 0 1 6CC;1 0 1 6CC;
    1 0 1 6CC;211 0 1 2C;1 0 1 3001;2 1 1 3A;2 0 1 21;1 0 1 3F;1 1 1 3016;1A 0 1 2014;
    1 0 1 2013;1 0 1 5F;1 0 1 5F;1 1 1 28;2 0 1 7B;1 0 1 7D;1 1 1 3014;2 1 1 3010;2 1 1 300A;
    2 1 1 3008;2 3 1 300C;6 0 1 5B;1 0 1 5D;5 0 1 5F;1 0 1 5F;1 0 1 5F;1 0 1 2C;1 0 1 3001;
    3 0 1 3B;1 0 1 3A;1 0 1 3F;1 0 1 21;1 0 1 2014;1 1 1 28;2 0 1 7B;1 0 1 7D;1 1 1 3014;
    2 0 1 23;1 0 1 26;1 1 1 2A;2 0 1 2D;1 0 1 3C;1 0 1 3E;1 0 1 3D;2 0 1 5C;1 1 1 24;2 0 1 40;
    15 1 1 621;2 1 1 622;2 1 1 623;2 1 1 624;2 1 1 625;2 0 1 626;1 0 1 626;1 1 1 626;
    2 1 1 627;2 0 1 628;1 0 1 628;1 1 1 628;2 1 1 629;2 0 1 62A;1 0 1 62A;1 1 1 62A;2 0 1 62B;
    1 0 1 62B;1 1 1 62B;2 0 1 62C;1 0 1 62C;1 1 1 62C;2 0 1 62D;1 0 1 62D;1 1 1 62D;2 0 1 62E;
    1 0 1 62E;1 1 1 62E;2 1 1 62F;2 1 1 630;2 1 1 631;2 1 1 632;2 0 1 633;1 0 1 633;1 1 1 633;
    2 0 1 634;1 0 1 634;1 1 1 634;2 0 1 635;1 0 1 635;1 1 1 635;2 0 1 636;1 0 1 636;1 1 1 636;
    2 0 1 637;1 0 1 637;1 1 1 637;2 0 1 638;1 0 1 638;1 1 1 638;2 0 1 639;1 0 1 639;1 1 1 639;
    2 0 1 63A;1 0 1 63A;1 0 1 63A;1 0 1 641;1 0 1 641;1 0 1 641;1 1 1 641;2 0 1 642;1 0 1 642;
    1 1 1 642;2 0 1 643;1 0 1 643;1 1 1 643;2 0 1 644;1 0 1 644;1 1 1 644;2 0 1 645;1 0 1 645;
    1 1 1 645;2 0 1 646;1 0 1 646;1 1 1 646;2 0 1 647;1 0 1 647;1 1 1 647;2 1 1 648;2 1 1 649;
    2 0 1 64A;1 0 1 64A;1 0 1 64A;D 1F 1 21;20 19 1 61;1A 23 1 5B;24 1 1 2985;2 0 1 2E;
    1 1 1 300C;2 0 1 3001;1 0 1 30FB;1 0 1 30F2;1 0 1 30A1;1 0 1 30A3;1 0 1 30A5;1 0 1 30A7;
    1 0 1 30A9;1 0 1 30E3;1 0 1 30E5;1 0 1 30E7;1 0 1 30C3;1 0 1 30FC;1 0 1 30A2;1 0 1 30A4;
    1 0 1 30A6;1 0 1 30A8;1 1 1 30AA;2 0 1 30AD;1 0 1 30AF;1 0 1 30B1;1 0 1 30B3;1 0 1 30B5;
    1 0 1 30B7;1 0 1 30B9;1 0 1 30BB;1 0 1 30BD;1 0 1 30BF;1 0 1 30C1;1 0 1 30C4;1 0 1 30C6;
    1 0 1 30C8;1 5 1 30CA;6 0 1 30D2;1 0 1 30D5;1 0 1 30D8;1 0 1 30DB;1 4 1 30DE;5 0 1 30E4;
    1 0 1 30E6;1 5 1 30E8;6 0 1 30EF;1 0 1 30F3;1 1 1 3099;3 1 1 1100;2 0 1 11AA;1 0 1 1102;
    1 1 1 11AC;2 2 1 1103;3 5 1 11B0;6 0 1 111A;1 2 1 1106;3 0 1 1121;1 9 1 1109;D 5 1 1161;
    8 5 1 1167;8 5 1 116D;8 2 1 1173;6 1 1 A2;2 0 1 AC;2 0 1 A6;1 0 1 A5;1 0 1 20A9;
    2 0 1 2502;1 3 1 2190;4 0 1 25A0;1 0 1 25CB;412 27 1 10428;B0 23 1 104D8;C0 A 1 10597;
    C E 1 105A3;10 6 1 105B3;8 1 1 105BB;1ED 1 1 2D0;2 0 1 E6;1 0 1 299;1 0 1 253;2 0 1 2A3;
    1 0 1 AB66;1 0 1 2A5;1 0 1 2A4;1 1 1 256;2 0 1 1D91;1 0 1 258;1 0 1 25E;1 0 1 2A9;
    1 0 1 264;1 0 1 262;1 0 1 260;1 0 1 29B;1 0 1 127;1 0 1 29C;1 0 1 267;1 0 1 284;1 1 1 2AA;
    2 0 1 26C;1 0 1 1DF04;1 0 1 A78E;1 0 1 26E;1 0 1 1DF05;1 0 1 28E;1 0 1 1DF06;1 0 1 F8;
    1 1 1 276;2 0 1 71;1 0 1 27A;1 0 1 1DF08;1 1 1 27D;2 0 1 280;1 0 1 2A8;1 0 1 2A6;
    1 0 1 AB67;1 0 1 2A7;1 0 1 288;1 0 1 2C71;2 0 1 28F;1 1 1 2A1;2 0 1 298;1 2 1 1C0;
    3 0 1 1DF0A;1 0 1 1DF1E;4C6 32 1 10CC0;D0 15 1 10D70;B50 1F 1 118C0;55A0 1F 1 16E60;
    60 18 1 16EBB;5E36 19 1 61;1A 9 1 30;710 19 1 61;1A 19 1 61;1A 19 1 61;1A 6 1 61;
    8 11 1 69;12 19 1 61;1A 19 1 61;1A 2 2 61;3 0 1 64;3 0 1 67;3 1 1 6A;4 3 1 6E;5 7 1 73;
    8 3 1 61;5 2 2 66;3 5 1 69;7 A 1 70;B 19 1 61;1A 19 1 61;1A 1 1 61;3 3 1 64;6 7 1 6A;
    9 6 1 73;8 19 1 61;1A 1 1 61;3 3 1 64;5 4 1 69;6 0 1 6F;4 6 1 73;8 19 1 61;1A 19 1 61;
    1A 19 1 61;1A 19 1 61;1A 19 1 61;1A 19 1 61;1A 19 1 61;1A 19 1 61;1A 19 1 61;1A 19 1 61;
    1A 19 1 61;1A 19 1 61;1A 19 1 61;1A 0 1 131;1 0 1 237;3 10 1 3B1;11 0 1 3B8;1 6 1 3C3;
    7 0 1 2207;1 10 1 3B1;11 0 1 3C3;1 6 1 3C3;7 0 1 2202;1 0 1 3B5;1 0 1 3B8;1 0 1 3BA;
    1 0 1 3C6;1 0 1 3C1;1 0 1 3C0;1 10 1 3B1;11 0 1 3B8;1 6 1 3C3;7 0 1 2207;1 10 1 3B1;
    11 0 1 3C3;1 6 1 3C3;7 0 1 2202;1 0 1 3B5;1 0 1 3B8;1 0 1 3BA;1 0 1 3C6;1 0 1 3C1;
    1 0 1 3C0;1 10 1 3B1;11 0 1 3B8;1 6 1 3C3;7 0 1 2207;1 10 1 3B1;11 0 1 3C3;1 6 1 3C3;
    7 0 1 2202;1 0 1 3B5;1 0 1 3B8;1 0 1 3BA;1 0 1 3C6;1 0 1 3C1;1 0 1 3C0;1 10 1 3B1;
    11 0 1 3B8;1 6 1 3C3;7 0 1 2207;1 10 1 3B1;11 0 1 3C3;1 6 1 3C3;7 0 1 2202;1 0 1 3B5;
    1 0 1 3B8;1 0 1 3BA;1 0 1 3C6;1 0 1 3C1;1 0 1 3C0;1 10 1 3B1;11 0 1 3B8;1 6 1 3C3;
    7 0 1 2207;1 10 1 3B1;11 0 1 3C3;1 6 1 3C3;7 0 1 2202;1 0 1 3B5;1 0 1 3B8;1 0 1 3BA;
    1 0 1 3C6;1 0 1 3C1;1 0 1 3C0;1 0 1 3DD;1 0 1 3DD;3 9 1 30;A 9 1 30;A 9 1 30;A 9 1 30;
    A 9 1 30;83A 8 1 430;9 2 1 43A;3 A 1 43E;B 0 1 44B;1 1 1 44D;2 0 1 A689;1 0 1 4D9;
    1 0 1 456;1 0 1 458;1 0 1 4E9;1 0 1 4AF;1 0 1 4CF;1 8 1 430;9 1 1 43A;2 1 1 43E;2 0 1 441;
    1 5 1 443;6 1 1 44A;2 0 1 491;1 0 1 456;1 0 1 455;1 0 1 45F;1 0 1 4AB;1 0 1 A651;
    1 0 1 4B1;893 21 1 1E922;500 1 1 627;2 0 1 62C;1 0 1 62F;2 0 1 648;1 0 1 632;1 0 1 62D;
    1 0 1 637;1 0 1 64A;1 3 1 643;4 0 1 633;1 0 1 639;1 0 1 641;1 0 1 635;1 0 1 642;1 0 1 631;
    1 0 1 634;1 1 1 62A;2 0 1 62E;1 0 1 630;1 0 1 636;1 0 1 638;1 0 1 63A;1 0 1 66E;1 0 1 6BA;
    1 0 1 6A1;1 0 1 66F;2 0 1 628;1 0 1 62C;2 0 1 647;3 0 1 62D;2 0 1 64A;1 3 1 643;4 0 1 633;
    1 0 1 639;1 0 1 641;1 0 1 635;1 0 1 642;2 0 1 634;1 1 1 62A;2 0 1 62E;2 0 1 636;2 0 1 63A;
    7 0 1 62C;5 0 1 62D;2 0 1 64A;2 2 2 644;3 0 1 633;1 0 1 639;2 0 1 635;1 0 1 642;2 0 1 634;
    3 0 1 62E;2 0 1 636;2 0 1 63A;2 0 1 6BA;2 0 1 66F;2 0 1 628;1 0 1 62C;2 0 1 647;3 0 1 62D;
    1 0 1 637;1 0 1 64A;1 2 2 643;3 0 1 646;1 0 1 633;1 0 1 639;1 0 1 641;1 0 1 635;1 0 1 642;
    2 0 1 634;1 1 1 62A;2 0 1 62E;2 0 1 636;1 0 1 638;1 0 1 63A;1 0 1 66E;2 0 1 6A1;2 1 1 627;
    2 0 1 62C;1 0 1 62F;1 1 1 647;2 0 1 632;1 0 1 62D;1 0 1 637;1 0 1 64A;2 2 1 644;3 0 1 633;
    1 0 1 639;1 0 1 641;1 0 1 635;1 0 1 642;1 0 1 631;1 0 1 634;1 1 1 62A;2 0 1 62E;1 0 1 630;
    1 0 1 636;1 0 1 638;1 0 1 63A;6 0 1 628;1 0 1 62C;1 0 1 62F;2 0 1 648;1 0 1 632;1 0 1 62D;
    1 0 1 637;1 0 1 64A;2 2 1 644;3 0 1 633;1 0 1 639;1 0 1 641;1 0 1 635;1 0 1 642;1 0 1 631;
    1 0 1 634;1 1 1 62A;2 0 1 62E;1 0 1 630;1 0 1 636;1 0 1 638;1 0 1 63A;270 0 1 63;1 0 1 72;
    4 19 1 61;D2 0 1 30B5;E 0 1 624B;1 0 1 5B57;1 0 1 53CC;1 0 1 30C7;1 0 1 4E8C;1 0 1 591A;
    1 0 1 89E3;1 0 1 5929;1 0 1 4EA4;1 0 1 6620;1 0 1 7121;1 0 1 6599;1 0 1 524D;1 0 1 5F8C;
    1 0 1 518D;1 0 1 65B0;1 0 1 521D;1 0 1 7D42;1 0 1 751F;1 0 1 8CA9;1 0 1 58F0;1 0 1 5439;
    1 0 1 6F14;1 0 1 6295;1 0 1 6355;1 0 1 4E00;1 0 1 4E09;1 0 1 904A;1 0 1 5DE6;1 0 1 4E2D;
    1 0 1 53F3;1 0 1 6307;1 0 1 8D70;1 0 1 6253;1 0 1 7981;1 0 1 7A7A;1 0 1 5408;1 0 1 6E80;
    1 0 1 6709;1 0 1 6708;1 0 1 7533;1 0 1 5272;1 0 1 55B6;1 0 1 914D;15 0 1 5F97;1 0 1 53EF;
    99F 9 1 30"

/-- Code points replaced by several. -/
def sequences : CodeTable := CodeTable.ofHex
  "A8 20 308;7 20 304;5 20 301;4 20 327;4 31 2044 34;1 31 2044 32;1 33 2044 34;72 69 307;
    2 69 6A;1 69 6A;C 6C B7;1 6C B7;9 2BC 6E;7B 64 17E;1 64 17E;1 64 17E;1 6C 6A;1 6C 6A;
    1 6C 6A;1 6E 6A;1 6E 6A;1 6E 6A;25 64 7A;1 64 7A;1 64 7A;E5 20 306;1 20 307;1 20 30A;
    1 20 328;1 20 303;1 20 30B;9D 20 3B9;A 20 301;1 20 308 301;202 565 582;EE 627 674;
    1 648 674;1 6C7 674;1 64A 674;7BB E4D E32;80 ECD EB2;29 EAB E99;1 EAB EA1;9A FB2 F71 F80;
    2 FB3 F71 F80;F21 61 2BE;E6 1F00 3B9;1 1F01 3B9;1 1F02 3B9;1 1F03 3B9;1 1F04 3B9;
    1 1F05 3B9;1 1F06 3B9;1 1F07 3B9;1 1F00 3B9;1 1F01 3B9;1 1F02 3B9;1 1F03 3B9;1 1F04 3B9;
    1 1F05 3B9;1 1F06 3B9;1 1F07 3B9;1 1F20 3B9;1 1F21 3B9;1 1F22 3B9;1 1F23 3B9;1 1F24 3B9;
    1 1F25 3B9;1 1F26 3B9;1 1F27 3B9;1 1F20 3B9;1 1F21 3B9;1 1F22 3B9;1 1F23 3B9;1 1F24 3B9;
    1 1F25 3B9;1 1F26 3B9;1 1F27 3B9;1 1F60 3B9;1 1F61 3B9;1 1F62 3B9;1 1F63 3B9;1 1F64 3B9;
    1 1F65 3B9;1 1F66 3B9;1 1F67 3B9;1 1F60 3B9;1 1F61 3B9;1 1F62 3B9;1 1F63 3B9;1 1F64 3B9;
    1 1F65 3B9;1 1F66 3B9;1 1F67 3B9;3 1F70 3B9;1 3B1 3B9;1 3AC 3B9;3 1FB6 3B9;5 3B1 3B9;
    1 20 313;2 20 313;1 20 342;1 20 308 342;1 1F74 3B9;1 3B7 3B9;1 3AE 3B9;3 1FC6 3B9;
    5 3B7 3B9;1 20 313 300;1 20 313 301;1 20 313 342;E 20 314 300;1 20 314 301;1 20 314 342;
    E 20 308 300;1 20 308 301;4 1F7C 3B9;1 3C9 3B9;1 3CE 3B9;3 1FF6 3B9;5 3C9 3B9;1 20 301;
    1 20 314;19 20 333;1C 2032 2032;1 2032 2032 2032;2 2035 2035;1 2035 2035 2035;5 21 21;
    2 20 305;9 3F 3F;1 3F 21;1 21 3F;E 2032 2032 2032 2032;51 72 73;58 61 2F 63;1 61 2F 73;
    2 B0 63;2 63 2F 6F;1 63 2F 75;3 B0 66;D 6E 6F;A 73 6D;1 74 65 6C;1 74 6D;19 66 61 78;
    15 31 2044 37;1 31 2044 39;1 31 2044 31 30;1 31 2044 33;1 32 2044 33;1 31 2044 35;
    1 32 2044 35;1 33 2044 35;1 34 2044 35;1 31 2044 36;1 35 2044 36;1 31 2044 38;
    1 33 2044 38;1 35 2044 38;1 37 2044 38;1 31 2044;2 69 69;1 69 69 69;1 69 76;2 76 69;
    1 76 69 69;1 76 69 69 69;1 69 78;2 78 69;1 78 69 69;6 69 69;1 69 69 69;1 69 76;2 76 69;
    1 76 69 69;1 76 69 69 69;1 69 78;2 78 69;1 78 69 69;E 30 2044 33;A3 222B 222B;
    1 222B 222B 222B;2 222E 222E;1 222E 222E 222E;239 31 30;1 31 31;1 31 32;1 31 33;1 31 34;
    1 31 35;1 31 36;1 31 37;1 31 38;1 31 39;1 32 30;1 28 31 29;1 28 32 29;1 28 33 29;
    1 28 34 29;1 28 35 29;1 28 36 29;1 28 37 29;1 28 38 29;1 28 39 29;1 28 31 30 29;
    1 28 31 31 29;1 28 31 32 29;1 28 31 33 29;1 28 31 34 29;1 28 31 35 29;1 28 31 36 29;
    1 28 31 37 29;1 28 31 38 29;1 28 31 39 29;1 28 32 30 29;15 28 61 29;1 28 62 29;1 28 63 29;
    1 28 64 29;1 28 65 29;1 28 66 29;1 28 67 29;1 28 68 29;1 28 69 29;1 28 6A 29;1 28 6B 29;
    1 28 6C 29;1 28 6D 29;1 28 6E 29;1 28 6F 29;1 28 70 29;1 28 71 29;1 28 72 29;1 28 73 29;
    1 28 74 29;1 28 75 29;1 28 76 29;1 28 77 29;1 28 78 29;1 28 79 29;1 28 7A 29;
    557 222B 222B 222B 222B;68 3A 3A 3D;1 3D 3D;1 3D 3D 3D;625 20 3099;1 20 309A;3 3088 308A;
    60 30B3 30C8;101 28 1100 29;1 28 1102 29;1 28 1103 29;1 28 1105 29;1 28 1106 29;
    1 28 1107 29;1 28 1109 29;1 28 110B 29;1 28 110C 29;1 28 110E 29;1 28 110F 29;
    1 28 1110 29;1 28 1111 29;1 28 1112 29;1 28 AC00 29;1 28 B098 29;1 28 B2E4 29;
    1 28 B77C 29;1 28 B9C8 29;1 28 BC14 29;1 28 C0AC 29;1 28 C544 29;1 28 C790 29;
    1 28 CC28 29;1 28 CE74 29;1 28 D0C0 29;1 28 D30C 29;1 28 D558 29;1 28 C8FC 29;
    1 28 C624 C804 29;1 28 C624 D6C4 29;2 28 4E00 29;1 28 4E8C 29;1 28 4E09 29;1 28 56DB 29;
    1 28 4E94 29;1 28 516D 29;1 28 4E03 29;1 28 516B 29;1 28 4E5D 29;1 28 5341 29;
    1 28 6708 29;1 28 706B 29;1 28 6C34 29;1 28 6728 29;1 28 91D1 29;1 28 571F 29;
    1 28 65E5 29;1 28 682A 29;1 28 6709 29;1 28 793E 29;1 28 540D 29;1 28 7279 29;
    1 28 8CA1 29;1 28 795D 29;1 28 52B4 29;1 28 4EE3 29;1 28 547C 29;1 28 5B66 29;
    1 28 76E3 29;1 28 4F01 29;1 28 8CC7 29;1 28 5354 29;1 28 796D 29;1 28 4F11 29;
    1 28 81EA 29;1 28 81F3 29;D 70 74 65;1 32 31;1 32 32;1 32 33;1 32 34;1 32 35;1 32 36;
    1 32 37;1 32 38;1 32 39;1 33 30;1 33 31;1 33 32;1 33 33;1 33 34;1 33 35;1D CC38 ACE0;
    1 C8FC C758;34 33 36;1 33 37;1 33 38;1 33 39;1 34 30;1 34 31;1 34 32;1 34 33;1 34 34;
    1 34 35;1 34 36;1 34 37;1 34 38;1 34 39;1 35 30;1 31 6708;1 32 6708;1 33 6708;1 34 6708;
    1 35 6708;1 36 6708;1 37 6708;1 38 6708;1 39 6708;1 31 30 6708;1 31 31 6708;1 31 32 6708;
    1 68 67;1 65 72 67;1 65 76;1 6C 74 64;30 4EE4 548C;1 30A2 30D1 30FC 30C8;
    1 30A2 30EB 30D5 30A1;1 30A2 30F3 30DA 30A2;1 30A2 30FC 30EB;1 30A4 30CB 30F3 30B0;
    1 30A4 30F3 30C1;1 30A6 30A9 30F3;1 30A8 30B9 30AF 30FC 30C9;1 30A8 30FC 30AB 30FC;
    1 30AA 30F3 30B9;1 30AA 30FC 30E0;1 30AB 30A4 30EA;1 30AB 30E9 30C3 30C8;
    1 30AB 30ED 30EA 30FC;1 30AC 30ED 30F3;1 30AC 30F3 30DE;1 30AE 30AC;1 30AE 30CB 30FC;
    1 30AD 30E5 30EA 30FC;1 30AE 30EB 30C0 30FC;1 30AD 30ED;1 30AD 30ED 30B0 30E9 30E0;
    1 30AD 30ED 30E1 30FC 30C8 30EB;1 30AD 30ED 30EF 30C3 30C8;1 30B0 30E9 30E0;
    1 30B0 30E9 30E0 30C8 30F3;1 30AF 30EB 30BC 30A4 30ED;1 30AF 30ED 30FC 30CD;
    1 30B1 30FC 30B9;1 30B3 30EB 30CA;1 30B3 30FC 30DD;1 30B5 30A4 30AF 30EB;
    1 30B5 30F3 30C1 30FC 30E0;1 30B7 30EA 30F3 30B0;1 30BB 30F3 30C1;1 30BB 30F3 30C8;
    1 30C0 30FC 30B9;1 30C7 30B7;1 30C9 30EB;1 30C8 30F3;1 30CA 30CE;1 30CE 30C3 30C8;
    1 30CF 30A4 30C4;1 30D1 30FC 30BB 30F3 30C8;1 30D1 30FC 30C4;1 30D0 30FC 30EC 30EB;
    1 30D4 30A2 30B9 30C8 30EB;1 30D4 30AF 30EB;1 30D4 30B3;1 30D3 30EB;
    1 30D5 30A1 30E9 30C3 30C9;1 30D5 30A3 30FC 30C8;1 30D6 30C3 30B7 30A7 30EB;
    1 30D5 30E9 30F3;1 30D8 30AF 30BF 30FC 30EB;1 30DA 30BD;1 30DA 30CB 30D2;1 30D8 30EB 30C4;
    1 30DA 30F3 30B9;1 30DA 30FC 30B8;1 30D9 30FC 30BF;1 30DD 30A4 30F3 30C8;1 30DC 30EB 30C8;
    1 30DB 30F3;1 30DD 30F3 30C9;1 30DB 30FC 30EB;1 30DB 30FC 30F3;1 30DE 30A4 30AF 30ED;
    1 30DE 30A4 30EB;1 30DE 30C3 30CF;1 30DE 30EB 30AF;1 30DE 30F3 30B7 30E7 30F3;
    1 30DF 30AF 30ED 30F3;1 30DF 30EA;1 30DF 30EA 30D0 30FC 30EB;1 30E1 30AC;
    1 30E1 30AC 30C8 30F3;1 30E1 30FC 30C8 30EB;1 30E4 30FC 30C9;1 30E4 30FC 30EB;
    1 30E6 30A2 30F3;1 30EA 30C3 30C8 30EB;1 30EA 30E9;1 30EB 30D4 30FC;1 30EB 30FC 30D6 30EB;
    1 30EC 30E0;1 30EC 30F3 30C8 30B2 30F3;1 30EF 30C3 30C8;1 30 70B9;1 31 70B9;1 32 70B9;
    1 33 70B9;1 34 70B9;1 35 70B9;1 36 70B9;1 37 70B9;1 38 70B9;1 39 70B9;1 31 30 70B9;
    1 31 31 70B9;1 31 32 70B9;1 31 33 70B9;1 31 34 70B9;1 31 35 70B9;1 31 36 70B9;
    1 31 37 70B9;1 31 38 70B9;1 31 39 70B9;1 32 30 70B9;1 32 31 70B9;1 32 32 70B9;
    1 32 33 70B9;1 32 34 70B9;1 68 70 61;1 64 61;1 61 75;1 62 61 72;1 6F 76;1 70 63;1 64 6D;
    1 64 6D 32;1 64 6D 33;1 69 75;1 5E73 6210;1 662D 548C;1 5927 6B63;1 660E 6CBB;
    1 682A 5F0F 4F1A 793E;1 70 61;1 6E 61;1 3BC 61;1 6D 61;1 6B 61;1 6B 62;1 6D 62;1 67 62;
    1 63 61 6C;1 6B 63 61 6C;1 70 66;1 6E 66;1 3BC 66;1 3BC 67;1 6D 67;1 6B 67;1 68 7A;
    1 6B 68 7A;1 6D 68 7A;1 67 68 7A;1 74 68 7A;1 3BC 6C;1 6D 6C;1 64 6C;1 6B 6C;1 66 6D;
    1 6E 6D;1 3BC 6D;1 6D 6D;1 63 6D;1 6B 6D;1 6D 6D 32;1 63 6D 32;1 6D 32;1 6B 6D 32;
    1 6D 6D 33;1 63 6D 33;1 6D 33;1 6B 6D 33;1 6D 2215 73;1 6D 2215 73 32;1 70 61;1 6B 70 61;
    1 6D 70 61;1 67 70 61;1 72 61 64;1 72 61 64 2215 73;1 72 61 64 2215 73 32;1 70 73;1 6E 73;
    1 3BC 73;1 6D 73;1 70 76;1 6E 76;1 3BC 76;1 6D 76;1 6B 76;1 6D 76;1 70 77;1 6E 77;
    1 3BC 77;1 6D 77;1 6B 77;1 6D 77;1 6B 3C9;1 6D 3C9;2 62 71;1 63 63;1 63 64;
    1 63 2215 6B 67;2 64 62;1 67 79;1 68 61;1 68 70;1 69 6E;1 6B 6B;1 6B 6D;1 6B 74;1 6C 6D;
    1 6C 6E;1 6C 6F 67;1 6C 78;1 6D 62;1 6D 69 6C;1 6D 6F 6C;1 70 68;2 70 70 6D;1 70 72;
    1 73 72;1 73 76;1 77 62;1 76 2215 6D;1 61 2215 6D;1 31 65E5;1 32 65E5;1 33 65E5;1 34 65E5;
    1 35 65E5;1 36 65E5;1 37 65E5;1 38 65E5;1 39 65E5;1 31 30 65E5;1 31 31 65E5;1 31 32 65E5;
    1 31 33 65E5;1 31 34 65E5;1 31 35 65E5;1 31 36 65E5;1 31 37 65E5;1 31 38 65E5;
    1 31 39 65E5;1 32 30 65E5;1 32 31 65E5;1 32 32 65E5;1 32 33 65E5;1 32 34 65E5;
    1 32 35 65E5;1 32 36 65E5;1 32 37 65E5;1 32 38 65E5;1 32 39 65E5;1 33 30 65E5;
    1 33 31 65E5;1 67 61 6C;C701 66 66;1 66 69;1 66 6C;1 66 66 69;1 66 66 6C;1 73 74;1 73 74;
    D 574 576;1 574 565;1 574 56B;1 57E 576;1 574 56D;38 5D0 5DC;8E 6C7 674;D 626 627;
    1 626 627;1 626 6D5;1 626 6D5;1 626 648;1 626 648;1 626 6C7;1 626 6C7;1 626 6C6;1 626 6C6;
    1 626 6C8;1 626 6C8;1 626 6D0;1 626 6D0;1 626 6D0;1 626 649;1 626 649;1 626 649;5 626 62C;
    1 626 62D;1 626 645;1 626 649;1 626 64A;1 628 62C;1 628 62D;1 628 62E;1 628 645;1 628 649;
    1 628 64A;1 62A 62C;1 62A 62D;1 62A 62E;1 62A 645;1 62A 649;1 62A 64A;1 62B 62C;1 62B 645;
    1 62B 649;1 62B 64A;1 62C 62D;1 62C 645;1 62D 62C;1 62D 645;1 62E 62C;1 62E 62D;1 62E 645;
    1 633 62C;1 633 62D;1 633 62E;1 633 645;1 635 62D;1 635 645;1 636 62C;1 636 62D;1 636 62E;
    1 636 645;1 637 62D;1 637 645;1 638 645;1 639 62C;1 639 645;1 63A 62C;1 63A 645;1 641 62C;
    1 641 62D;1 641 62E;1 641 645;1 641 649;1 641 64A;1 642 62D;1 642 645;1 642 649;1 642 64A;
    1 643 627;1 643 62C;1 643 62D;1 643 62E;1 643 644;1 643 645;1 643 649;1 643 64A;1 644 62C;
    1 644 62D;1 644 62E;1 644 645;1 644 649;1 644 64A;1 645 62C;1 645 62D;1 645 62E;1 645 645;
    1 645 649;1 645 64A;1 646 62C;1 646 62D;1 646 62E;1 646 645;1 646 649;1 646 64A;1 647 62C;
    1 647 645;1 647 649;1 647 64A;1 64A 62C;1 64A 62D;1 64A 62E;1 64A 645;1 64A 649;1 64A 64A;
    1 630 670;1 631 670;1 649 670;1 20 64C 651;1 20 64D 651;1 20 64E 651;1 20 64F 651;
    1 20 650 651;1 20 651 670;1 626 631;1 626 632;1 626 645;1 626 646;1 626 649;1 626 64A;
    1 628 631;1 628 632;1 628 645;1 628 646;1 628 649;1 628 64A;1 62A 631;1 62A 632;1 62A 645;
    1 62A 646;1 62A 649;1 62A 64A;1 62B 631;1 62B 632;1 62B 645;1 62B 646;1 62B 649;1 62B 64A;
    1 641 649;1 641 64A;1 642 649;1 642 64A;1 643 627;1 643 644;1 643 645;1 643 649;1 643 64A;
    1 644 645;1 644 649;1 644 64A;1 645 627;1 645 645;1 646 631;1 646 632;1 646 645;1 646 646;
    1 646 649;1 646 64A;1 649 670;1 64A 631;1 64A 632;1 64A 645;1 64A 646;1 64A 649;1 64A 64A;
    1 626 62C;1 626 62D;1 626 62E;1 626 645;1 626 647;1 628 62C;1 628 62D;1 628 62E;1 628 645;
    1 628 647;1 62A 62C;1 62A 62D;1 62A 62E;1 62A 645;1 62A 647;1 62B 645;1 62C 62D;1 62C 645;
    1 62D 62C;1 62D 645;1 62E 62C;1 62E 645;1 633 62C;1 633 62D;1 633 62E;1 633 645;1 635 62D;
    1 635 62E;1 635 645;1 636 62C;1 636 62D;1 636 62E;1 636 645;1 637 62D;1 638 645;1 639 62C;
    1 639 645;1 63A 62C;1 63A 645;1 641 62C;1 641 62D;1 641 62E;1 641 645;1 642 62D;1 642 645;
    1 643 62C;1 643 62D;1 643 62E;1 643 644;1 643 645;1 644 62C;1 644 62D;1 644 62E;1 644 645;
    1 644 647;1 645 62C;1 645 62D;1 645 62E;1 645 645;1 646 62C;1 646 62D;1 646 62E;1 646 645;
    1 646 647;1 647 62C;1 647 645;1 647 670;1 64A 62C;1 64A 62D;1 64A 62E;1 64A 645;1 64A 647;
    1 626 645;1 626 647;1 628 645;1 628 647;1 62A 645;1 62A 647;1 62B 645;1 62B 647;1 633 645;
    1 633 647;1 634 645;1 634 647;1 643 644;1 643 645;1 644 645;1 646 645;1 646 647;1 64A 645;
    1 64A 647;1 640 64E 651;1 640 64F 651;1 640 650 651;1 637 649;1 637 64A;1 639 649;
    1 639 64A;1 63A 649;1 63A 64A;1 633 649;1 633 64A;1 634 649;1 634 64A;1 62D 649;1 62D 64A;
    1 62C 649;1 62C 64A;1 62E 649;1 62E 64A;1 635 649;1 635 64A;1 636 649;1 636 64A;1 634 62C;
    1 634 62D;1 634 62E;1 634 645;1 634 631;1 633 631;1 635 631;1 636 631;1 637 649;1 637 64A;
    1 639 649;1 639 64A;1 63A 649;1 63A 64A;1 633 649;1 633 64A;1 634 649;1 634 64A;1 62D 649;
    1 62D 64A;1 62C 649;1 62C 64A;1 62E 649;1 62E 64A;1 635 649;1 635 64A;1 636 649;1 636 64A;
    1 634 62C;1 634 62D;1 634 62E;1 634 645;1 634 631;1 633 631;1 635 631;1 636 631;1 634 62C;
    1 634 62D;1 634 62E;1 634 645;1 633 647;1 634 647;1 637 645;1 633 62C;1 633 62D;1 633 62E;
    1 634 62C;1 634 62D;1 634 62E;1 637 645;1 638 645;1 627 64B;1 627 64B;13 62A 62C 645;
    1 62A 62D 62C;1 62A 62D 62C;1 62A 62D 645;1 62A 62E 645;1 62A 645 62C;1 62A 645 62D;
    1 62A 645 62E;1 62C 645 62D;1 62C 645 62D;1 62D 645 64A;1 62D 645 649;1 633 62D 62C;
    1 633 62C 62D;1 633 62C 649;1 633 645 62D;1 633 645 62D;1 633 645 62C;1 633 645 645;
    1 633 645 645;1 635 62D 62D;1 635 62D 62D;1 635 645 645;1 634 62D 645;1 634 62D 645;
    1 634 62C 64A;1 634 645 62E;1 634 645 62E;1 634 645 645;1 634 645 645;1 636 62D 649;
    1 636 62E 645;1 636 62E 645;1 637 645 62D;1 637 645 62D;1 637 645 645;1 637 645 64A;
    1 639 62C 645;1 639 645 645;1 639 645 645;1 639 645 649;1 63A 645 645;1 63A 645 64A;
    1 63A 645 649;1 641 62E 645;1 641 62E 645;1 642 645 62D;1 642 645 645;1 644 62D 645;
    1 644 62D 64A;1 644 62D 649;1 644 62C 62C;1 644 62C 62C;1 644 62E 645;1 644 62E 645;
    1 644 645 62D;1 644 645 62D;1 645 62D 62C;1 645 62D 645;1 645 62D 64A;1 645 62C 62D;
    1 645 62C 645;1 645 62E 62C;1 645 62E 645;3 645 62C 62E;1 647 645 62C;1 647 645 645;
    1 646 62D 645;1 646 62D 649;1 646 62C 645;1 646 62C 645;1 646 62C 649;1 646 645 64A;
    1 646 645 649;1 64A 645 645;1 64A 645 645;1 628 62E 64A;1 62A 62C 64A;1 62A 62C 649;
    1 62A 62E 64A;1 62A 62E 649;1 62A 645 64A;1 62A 645 649;1 62C 645 64A;1 62C 62D 649;
    1 62C 645 649;1 633 62E 649;1 635 62D 64A;1 634 62D 64A;1 636 62D 64A;1 644 62C 64A;
    1 644 645 64A;1 64A 62D 64A;1 64A 62C 64A;1 64A 645 64A;1 645 645 64A;1 642 645 64A;
    1 646 62D 64A;1 642 645 62D;1 644 62D 645;1 639 645 64A;1 643 645 64A;1 646 62C 62D;
    1 645 62E 64A;1 644 62C 645;1 643 645 645;1 644 62C 645;1 646 62C 62D;1 62C 62D 64A;
    1 62D 62C 64A;1 645 62C 64A;1 641 645 64A;1 628 62D 64A;1 643 645 645;1 639 62C 645;
    1 635 645 645;1 633 62E 64A;1 646 62C 64A;29 635 644 6D2;1 642 644 6D2;1 627 644 644 647;
    1 627 643 628 631;1 645 62D 645 62F;1 635 644 639 645;1 631 633 648 644;1 639 644 64A 647;
    1 648 633 644 645;1 635 644 649;
    1 635 644 649 20 627 644 644 647 20 639 644 64A 647 20 648 633 644 645;
    1 62C 644 20 62C 644 627 644 647;1 631 6CC 627 644;4D 20 305;1 20 305;1 20 305;1 20 305;
    24 20 64B;1 640 64B;1 20 64C;2 20 64D;2 20 64E;1 640 64E;1 20 64F;1 640 64F;1 20 650;
    1 640 650;1 20 651;1 640 651;1 20 652;1 640 652;76 644 622;1 644 622;1 644 623;1 644 623;
    1 644 625;1 644 625;1 644 627;1 644 627;E7 20 304;F11E 30 2C;1 31 2C;1 32 2C;1 33 2C;
    1 34 2C;1 35 2C;1 36 2C;1 37 2C;1 38 2C;1 39 2C;6 28 61 29;1 28 62 29;1 28 63 29;
    1 28 64 29;1 28 65 29;1 28 66 29;1 28 67 29;1 28 68 29;1 28 69 29;1 28 6A 29;1 28 6B 29;
    1 28 6C 29;1 28 6D 29;1 28 6E 29;1 28 6F 29;1 28 70 29;1 28 71 29;1 28 72 29;1 28 73 29;
    1 28 74 29;1 28 75 29;1 28 76 29;1 28 77 29;1 28 78 29;1 28 79 29;1 28 7A 29;
    1 3014 73 3015;3 63 64;1 77 7A;1C 68 76;1 6D 76;1 73 64;1 73 73;1 70 70 76;1 77 63;
    1B 6D 63;1 6D 64;1 6D 72;24 64 6A;70 307B 304B;1 30B3 30B3;3F 3014 672C 3015;
    1 3014 4E09 3015;1 3014 4E8C 3015;1 3014 5B89 3015;1 3014 70B9 3015;1 3014 6253 3015;
    1 3014 76D7 3015;1 3014 52DD 3015;1 3014 6557 3015"

/-- The one replacement of a code point. -/
def shifted? (x : Nat) : Option Nat :=
  match shifts.row? x with
  | some (head, [span, step, first]) =>
    if x ≤ head + span ∧ (x - head) % step = 0 then some (first + (x - head)) else none
  | _ => none

/-- What becomes of a code point. -/
def of (x : Nat) : Mapping :=
  match shifted? x with
  | some y => replaced [y]
  | none =>
    match sequences.find? x with
    | some ys => replaced ys
    | none =>
      if droppedSet.contains x then dropped
      else if refusedSet.contains x then refused
      else stands

end Mapping

end Formwork.DomainName
