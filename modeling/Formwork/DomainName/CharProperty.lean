import Formwork.Text.CodeTable

/-! # Character properties for domain labels

Marks, joining types and directions: the properties on which the rules for
labels of internationalised domain names depend.
-/

namespace Formwork.DomainName

/-- The code points of the general category `Mark`. -/
def marks : CodeSet := CodeSet.ofHex
  "300 370 483 48A 591 5BE 5BF 5C0 5C1 5C3 5C4 5C6 5C7 5C8 610 61B 64B 660 670 671 6D6 6DD
    6DF 6E5 6E7 6E9 6EA 6EE 711 712 730 74B 7A6 7B1 7EB 7F4 7FD 7FE 816 81A 81B 824 825 828
    829 82E 859 85C 897 8A0 8CA 8E2 8E3 904 93A 93D 93E 950 951 958 962 964 981 984 9BC 9BD
    9BE 9C5 9C7 9C9 9CB 9CE 9D7 9D8 9E2 9E4 9FE 9FF A01 A04 A3C A3D A3E A43 A47 A49 A4B A4E
    A51 A52 A70 A72 A75 A76 A81 A84 ABC ABD ABE AC6 AC7 ACA ACB ACE AE2 AE4 AFA B00 B01 B04
    B3C B3D B3E B45 B47 B49 B4B B4E B55 B58 B62 B64 B82 B83 BBE BC3 BC6 BC9 BCA BCE BD7 BD8
    C00 C05 C3C C3D C3E C45 C46 C49 C4A C4E C55 C57 C62 C64 C81 C84 CBC CBD CBE CC5 CC6 CC9
    CCA CCE CD5 CD7 CE2 CE4 CF3 CF4 D00 D04 D3B D3D D3E D45 D46 D49 D4A D4E D57 D58 D62 D64
    D81 D84 DCA DCB DCF DD5 DD6 DD7 DD8 DE0 DF2 DF4 E31 E32 E34 E3B E47 E4F EB1 EB2 EB4 EBD
    EC8 ECF F18 F1A F35 F36 F37 F38 F39 F3A F3E F40 F71 F85 F86 F88 F8D F98 F99 FBD FC6 FC7
    102B 103F 1056 105A 105E 1061 1062 1065 1067 106E 1071 1075 1082 108E 108F 1090 109A
    109E 135D 1360 1712 1716 1732 1735 1752 1754 1772 1774 17B4 17D4 17DD 17DE 180B 180E
    180F 1810 1885 1887 18A9 18AA 1920 192C 1930 193C 1A17 1A1C 1A55 1A5F 1A60 1A7D 1A7F
    1A80 1AB0 1ADE 1AE0 1AEC 1B00 1B05 1B34 1B45 1B6B 1B74 1B80 1B83 1BA1 1BAE 1BE6 1BF4
    1C24 1C38 1CD0 1CD3 1CD4 1CE9 1CED 1CEE 1CF4 1CF5 1CF7 1CFA 1DC0 1E00 20D0 20F1 2CEF
    2CF2 2D7F 2D80 2DE0 2E00 302A 3030 3099 309B A66F A673 A674 A67E A69E A6A0 A6F0 A6F2
    A802 A803 A806 A807 A80B A80C A823 A828 A82C A82D A880 A882 A8B4 A8C6 A8E0 A8F2 A8FF
    A900 A926 A92E A947 A954 A980 A984 A9B3 A9C1 A9E5 A9E6 AA29 AA37 AA43 AA44 AA4C AA4E
    AA7B AA7E AAB0 AAB1 AAB2 AAB5 AAB7 AAB9 AABE AAC0 AAC1 AAC2 AAEB AAF0 AAF5 AAF7 ABE3
    ABEB ABEC ABEE FB1E FB1F FE00 FE10 FE20 FE30 101FD 101FE 102E0 102E1 10376 1037B 10A01
    10A04 10A05 10A07 10A0C 10A10 10A38 10A3B 10A3F 10A40 10AE5 10AE7 10D24 10D28 10D69
    10D6E 10EAB 10EAD 10EFA 10F00 10F46 10F51 10F82 10F86 11000 11003 11038 11047 11070
    11071 11073 11075 1107F 11083 110B0 110BB 110C2 110C3 11100 11103 11127 11135 11145
    11147 11173 11174 11180 11183 111B3 111C1 111C9 111CD 111CE 111D0 1122C 11238 1123E
    1123F 11241 11242 112DF 112EB 11300 11304 1133B 1133D 1133E 11345 11347 11349 1134B
    1134E 11357 11358 11362 11364 11366 1136D 11370 11375 113B8 113C1 113C2 113C3 113C5
    113C6 113C7 113CB 113CC 113D1 113D2 113D3 113E1 113E3 11435 11447 1145E 1145F 114B0
    114C4 115AF 115B6 115B8 115C1 115DC 115DE 11630 11641 116AB 116B8 1171D 1172C 1182C
    1183B 11930 11936 11937 11939 1193B 1193F 11940 11941 11942 11944 119D1 119D8 119DA
    119E1 119E4 119E5 11A01 11A0B 11A33 11A3A 11A3B 11A3F 11A47 11A48 11A51 11A5C 11A8A
    11A9A 11B60 11B68 11C2F 11C37 11C38 11C40 11C92 11CA8 11CA9 11CB7 11D31 11D37 11D3A
    11D3B 11D3C 11D3E 11D3F 11D46 11D47 11D48 11D8A 11D8F 11D90 11D92 11D93 11D98 11EF3
    11EF7 11F00 11F02 11F03 11F04 11F34 11F3B 11F3E 11F43 11F5A 11F5B 13440 13441 13447
    13456 1611E 16130 16AF0 16AF5 16B30 16B37 16F4F 16F50 16F51 16F88 16F8F 16F93 16FE4
    16FE5 16FF0 16FF2 1BC9D 1BC9F 1CF00 1CF2E 1CF30 1CF47 1D165 1D16A 1D16D 1D173 1D17B
    1D183 1D185 1D18C 1D1AA 1D1AE 1D242 1D245 1DA00 1DA37 1DA3B 1DA6D 1DA75 1DA76 1DA84
    1DA85 1DA9B 1DAA0 1DAA1 1DAB0 1E000 1E007 1E008 1E019 1E01B 1E022 1E023 1E025 1E026
    1E02B 1E08F 1E090 1E130 1E137 1E2AE 1E2AF 1E2EC 1E2F0 1E4EC 1E4F0 1E5EE 1E5F0 1E6E3
    1E6E4 1E6E6 1E6E7 1E6EE 1E6F0 1E6F5 1E6F6 1E8D0 1E8D7 1E944 1E94B E0100 E01F0"

/-- How a character joins its neighbours in cursive script. -/
inductive JoiningType where
  | nonJoining
  | dual
  | left
  | right
  | transparent
deriving DecidableEq

/-- Stretches of code points with a joining type: how many follow the first one,
and the number of the type. -/
def joiningStretches : CodeTable := CodeTable.ofHex
  "AD 0 4;253 6F 4;183 6 4;10E 2C 4;2E 0 4;2 1 4;3 1 4;3 0 4;49 A 4;C 0 4;4 0 1;2 3 3;4 0 1;
    1 0 3;1 0 1;1 0 3;1 4 1;5 3 3;4 C 1;E 6 1;7 0 3;1 1 1;2 14 4;23 1 1;2 0 4;1 2 3;4 2 3;
    3 F 1;10 11 3;12 25 1;26 0 3;1 1 1;2 8 3;9 0 1;1 0 3;1 0 1;1 0 3;1 1 1;2 1 3;3 0 3;1 6 4;
    9 5 4;8 1 4;3 3 4;4 1 3;C 2 1;5 0 1;10 0 4;1 0 3;1 0 4;1 2 1;3 4 3;5 3 1;4 0 3;1 8 1;
    9 0 3;1 0 1;1 0 3;1 0 1;1 0 3;1 1 1;2 0 3;1 1A 4;1D 0 3;1 A 1;B 2 3;3 E 1;F 1 3;2 3 1;
    4 0 3;1 0 1;1 1 3;2 2 1;3 1 3;2 5 1;2C A 4;24 20 1;21 8 4;12 0 4;19 3 4;5 8 4;A 2 4;4 4 4;
    17 0 3;1 4 1;5 1 3;2 0 1;1 0 3;1 9 1;A 0 3;1 0 1;1 2 3;3 2 4;7 0 1;2 3 1;5 0 3;1 0 1;
    1 1 3;7 12 3;16 0 1;3 4 1;5 0 3;1 0 1;8 8 4;9 9 1;A 2 3;4 0 3;1 1 1;2 1 3;2 5 1;6 0 3;
    1 E 1;10 17 4;19 1F 4;57 0 4;2 0 4;5 7 4;C 0 4;4 6 4;11 1 4;1F 0 4;3B 0 4;5 3 4;C 0 4;
    15 1 4;1C 0 4;3 1 4;3B 0 4;5 1 4;6 1 4;4 2 4;6 0 4;1F 1 4;5 0 4;C 1 4;3B 0 4;5 4 4;6 1 4;
    6 0 4;15 1 4;18 5 4;7 0 4;3B 0 4;3 0 4;2 3 4;C 0 4;8 1 4;D 1 4;20 0 4;3E 0 4;D 0 4;33 0 4;
    4 0 4;38 0 4;2 2 4;8 2 4;4 3 4;B 1 4;D 1 4;1F 0 4;3B 0 4;3 0 4;7 0 4;6 1 4;16 1 4;1E 1 4;
    3B 1 4;6 3 4;C 0 4;15 1 4;1F 0 4;49 0 4;8 2 4;4 0 4;5B 0 4;3 6 4;13 7 4;6A 0 4;3 8 4;
    14 6 4;50 1 4;1D 0 4;2 0 4;2 0 4;38 D 4;F 4 4;6 1 4;7 A 4;C 23 4;2D 0 4;67 3 4;5 5 4;
    7 1 4;4 1 4;1B 1 4;6 2 4;13 3 4;11 0 4;3 1 4;8 0 4;10 0 4;2C0 2 4;3B5 2 4;20 1 4;20 1 4;
    20 1 4;42 1 4;3 6 4;F 0 4;3 A 4;14 0 4;2A 0 1;4 2 4;4 0 4;11 58 1;65 1 4;2 21 1;22 0 4;
    1 0 1;76 2 4;7 1 4;B 0 4;7 2 4;DE 1 4;4 0 4;3B 0 4;2 6 4;8 0 4;2 0 4;3 7 4;E 9 4;C 0 4;
    31 2D 4;30 B 4;20 3 4;34 0 4;2 4 4;6 0 4;6 0 4;29 8 4;15 1 4;22 3 4;6 1 4;3 2 4;3B 0 4;
    2 1 4;5 0 4;2 2 4;3D 7 4;A 1 4;9A 2 4;4 C 4;E 6 4;B 0 4;7 0 4;4 1 4;C8 3F 4;24B 0 4;3 1 4;
    1C 4 4;36 4 4;A 5 4;66 20 4;C1F 2 4;90 0 4;61 1F 4;24A 3 4;6F 1 4;75D6 3 4;5 9 4;2A 1 4;
    52 1 4;112 0 4;4 0 4;5 0 4;1A 1 4;7 0 4;14 31 1;32 0 2;52 1 4;1C 11 4;1F 0 4;27 7 4;
    21 A 4;39 2 4;33 0 4;3 3 4;6 1 4;29 0 4;44 5 4;8 1 4;4 1 4;E 0 4;9 0 4;30 0 4;34 0 4;
    2 2 4;5 1 4;7 1 4;3 0 4;2B 1 4;A 0 4;EF 0 4;3 0 4;5 0 4;4F31 0 4;2E2 F 4;20 F 4;DF 0 4;
    FA 2 4;204 0 4;E3 0 4;96 4 4;68B 2 4;4 1 4;7 3 4;2C 2 4;7 0 4;81 4 1;5 0 3;2 0 3;2 1 3;
    4 0 2;1 4 3;5 3 1;4 0 2;1 4 1;5 0 3;1 2 1;3 0 3;3 0 3;1 1 4;6 3 1;4 0 3;91 0 1;1 0 3;
    1 0 1;1 2 3;3 2 1;3 0 3;1 1 1;2 0 3;1 0 1;1 1 3;2 0 1;1 0 3;18 3 3;4 1 1;153 0 2;1 20 1;
    21 0 3;1 0 1;1 3 4;45 4 4;142 1 4;17 0 3;1 1 1;3 1 1;34 5 4;36 2 1;3 0 3;1 10 1;12 A 4;
    B 2 1;3 0 3;1C 3 1;4 1 3;2 B 1;C 3 4;2E 0 1;2 1 1;2 2 3;4 0 1;1 1 3;2 1 1;2 0 3;1 1 1;
    3 0 1;1 1 3;2 0 1;5 0 3;1 0 1;1 0 2;36 0 4;37 E 4;38 0 4;3 1 4;C 2 4;34 3 4;6 1 4;9 0 4;
    3E 2 4;27 4 4;6 7 4;46 0 4;D 1 4;36 8 4;13 3 4;6 0 4;60 2 4;5 0 4;2 1 4;8 0 4;3 0 4;
    9E 0 4;4 7 4;1D 1 4;3B 1 4;5 0 4;26 6 4;A 4 4;4B 5 4;13 0 4;2 0 4;2 0 4;F 1 4;57 7 4;
    A 2 4;4 0 4;18 0 4;55 5 4;7 0 4;5 1 4;3 1 4;F0 3 4;A 1 4;3 1 4;1D 1 4;57 7 4;A 0 4;2 1 4;
    6C 0 4;2 0 4;3 5 4;7 0 4;66 0 4;2 0 4;3 3 4;5 4 4;108 8 4;A 1 4;102 1 4;3 0 4;5 0 4;
    91 3 4;6 1 4;6 0 4;21 9 4;32 5 4;8 3 4;C 0 4;A 5 4;8 2 4;31 C 4;E 1 4;C8 0 4;2 2 4;4 0 4;
    CA 6 4;8 5 4;7 0 4;53 15 4;18 6 4;8 1 4;3 1 4;7C 5 4;9 0 4;2 1 4;3 6 4;8 0 4;49 1 4;5 0 4;
    2 0 4;15C 1 4;D 1 4;36 4 4;A 0 4;2 0 4;18 0 4;14D6 10 4;17 E 4;2CD7 B 4;F 2 4;9C3 4 4;
    40 6 4;41F 0 4;40 3 4;55 0 4;4CB9 1 4;3 3 4;1260 2D 4;30 16 4;237 2 4;C F 4;12 6 4;25 3 4;
    98 2 4;7BE 36 4;3B 31 4;3A 0 4;F 0 4;17 4 4;6 E 4;55F 6 4;8 10 4;13 6 4;8 1 4;3 4 4;
    69 0 4;A1 6 4;17E 0 4;3E 3 4;200 3 4;102 1 4;F5 0 4;3 0 4;8 1 4;7 0 4;1DB 6 4;30 43 1;
    44 7 4;C16BD 0 4;1F 5F 4;E0 EF 4"

/-- The joining type of a code point. -/
def joiningType (x : Nat) : JoiningType :=
  match joiningStretches.row? x with
  | some (head, [more, kind]) =>
    if x ≤ head + more then
      match kind with
      | 1 => .dual
      | 2 => .left
      | 3 => .right
      | _ => .transparent
    else .nonJoining
  | _ => .nonJoining

/-- The direction of a character, the classes that the rule for labels treats
alike taken together. -/
inductive Direction where
  | leftToRight
  | rightToLeft
  | arabicNumber
  | europeanNumber
  | mark
  | neutral
deriving DecidableEq

/-- Where the direction changes among the characters that stand in domain names. -/
def directionChanges : CodeTable := CodeTable.ofHex
  "0 5;30 3;A 5;27 0;1A 5;64 0;18 5;1 0;1C1 5;2 0;7 5;E 0;2 5;1C 0;1 5;11 4;71 0;4 5;2 0;
    7F 5;2 0;8B 4;8 0;FF 5;7 4;2D 1;1 4;1 1;1 4;2 1;1 4;2 1;1 4;9 1;36 5;2 1;1 5;2 1;1 5;1 1;
    1 5;2 4;B 1;30 4;15 2;A 5;1 2;2 1;3 4;1 1;65 4;8 5;1 4;6 1;2 4;2 5;1 4;4 1;2 3;A 1;17 4;
    1 1;1E 4;1D 1;59 4;B 1;3A 4;9 1;2 5;4 1;3 4;1 1;18 4;4 1;1 4;9 1;1 4;3 1;1 4;7 1;29 4;5 1;
    39 4;9 1;2A 4;39 0;37 4;1 0;1 4;1 0;4 4;8 0;4 4;1 0;3 4;F 0;2 4;2 0;1D 4;1 0;3A 4;1 0;4 4;
    6 0;6 4;1 0;14 4;4 0;C 5;2 0;7 5;1 0;2 4;5 0;39 4;2 0;3 4;1B 0;14 4;2 0;3 4;1 0;B 4;2 0;
    39 4;1 0;4 4;8 0;4 4;3 0;12 4;4 0;B 5;8 0;1 4;8 0;3A 4;1 0;2 4;1 0;1 4;6 0;6 4;A 0;B 4;
    4 0;1C 4;1 0;3D 4;1 0;C 4;3 0;23 5;D 4;1 0;3 4;1 0;37 4;1 0;1 4;3 0;5 4;12 0;A 4;4 0;12 5;
    7 0;2 4;1 0;3A 4;1 0;F 4;9 0;D 4;4 0;1A 4;2 0;39 4;2 0;4 4;5 0;7 4;1 0;14 4;4 0;1B 4;1 0;
    48 4;5 0;3 4;6 0;59 4;1 0;2 4;B 5;1 0;7 4;8 0;62 4;1 0;2 4;9 0;B 4;8 0;48 4;2 0;1B 4;1 0;
    1 4;1 0;1 4;1 5;4 0;33 4;E 0;1 4;5 0;1 4;2 0;5 4;31 0;8 4;1 0;66 4;4 0;1 4;6 0;1 4;2 0;
    2 4;2 0;19 4;2 0;4 4;3 0;10 4;4 0;D 4;1 0;2 4;2 0;6 4;1 0;F 4;1 0;2BF 4;3 0;30 5;10 0;
    60 5;1 0;29A 5;5 0;72 4;3 0;1D 4;2 0;1E 4;E 0;12 4;E 0;37 4;7 0;8 4;1 0;2 4;B 0;7 5;1 0;
    1 4;3 0;10 5;20 0;75 4;2 0;22 4;1 0;76 4;3 0;4 4;2 0;9 4;1 0;6 4;7 5;6 0;98 5;22 0;17 4;
    2 0;2 4;3 0;38 4;1 0;1 4;9 0;1 4;1 0;2 4;8 0;6 4;D 0;30 4;54 0;30 4;1 0;1 4;5 0;1 4;1 0;
    5 4;1 0;B 5;2 0;1B 4;9 0;B 5;1 4;2 0;20 4;4 0;2 4;2 0;1 4;3 0;38 4;1 0;1 4;2 0;3 4;1 0;
    1 4;3 0;3A 4;8 0;2 4;5 0;95 4;3 0;1 4;D 0;1 4;7 0;4 4;1 0;6 4;1 0;3 4;2 0;C6 4;41 0;20B 5;
    C4 4;34 5;4A 0;3C 5;1AC 0;45 5;1A 0;1 5;316 0;1 5;153 0;100 5;330 0;B5 5;7 0;3 4;4 0;6 5;
    7 0;7F 4;1 0;60 4;20 5;205 0;3 5;19 0;9 4;4 0;2 5;1 0;6 5;4 0;2 5;4 0;58 4;4 0;3 5;1 0;
    5A 5;1 0;C4 5;30 0;1BD0 5;40 0;5690 5;40 0;13D 5;3 0;5F 4;4 5;1 4;A 5;3 0;1D 4;2 0;50 4;
    2 0;E 5;23 0;65 5;1 0;79 4;1 0;3 4;1 0;4 4;1 0;19 4;2 0;1 5;4 4;4 0;8 5;8 0;34 5;C 0;44 4;
    A 0;12 4;12 0;D 4;1 0;26 4;8 0;19 4;B 0;2E 4;3 0;30 4;1 0;2 4;4 0;2 4;2 0;27 4;1 0;43 4;
    6 0;2 4;2 0;2 4;B 0;3 4;1 0;8 4;1 0;2F 4;1 0;33 4;1 0;1 4;3 0;2 4;2 0;5 4;2 0;1 4;1 0;
    2A 4;2 0;8 4;B 0;69 5;56 0;25 4;1 0;2 4;1 0;4 4;3 0;4F2E 4;94 1;11 5;25D 4;25 5;2E 1;
    18D 0;101 5;1 0;3E 5;4D 0;3 5;40 0;2D 4;83 0;60 4;1 3;1F 0;76 4;A 0;480 1;11F 5;1 1;E1 4;
    F 1;28 4;8 1;A5 4;6 1;4E 5;7 1;1E4 4;C 2;10 1;29 4;5 5;1 1;1F 5;D2 2;20 1;2B 4;2 1;23 5;
    2A 4;6 1;46 4;B 1;31 4;4 1;7A 0;1 4;1 0;36 4;F 0;B 5;14 0;A 4;1 0;2 4;2 0;A 4;3 0;31 4;
    4 0;2 4;2 0;7 4;E 0;30 4;3 0;24 4;5 0;1 4;9 0;3D 4;1 0;C 4;2 0;34 4;9 0;A 4;4 0;2 4;1 0;
    5F 4;3 0;2 4;1 0;1 4;2 0;6 4;1 0;2 4;3F 0;5F 4;1 0;3 4;D 0;10 4;2 0;39 4;2 0;3 4;1 0;25 4;
    1A 0;3B 4;7 0;C 4;1 0;1 4;1 0;1 4;1 0;1 5;D 4;1F 0;38 4;8 0;2 4;3 0;1 4;1 0;17 4;1 0;54 4;
    6 0;1 4;1 0;4 4;2 0;1 4;2 0;EE 4;6 0;4 4;2 0;1 4;2 0;1B 4;24 0;33 4;8 0;2 4;1 0;1 4;2 0;
    1F 5;20 0;2B 4;1 0;1 4;1 0;2 4;6 0;1 4;1 0;65 4;3 0;2 4;4 0;1 4;9 0;FF 4;9 0;1 4;2 0;
    100 4;2 0;1 4;1 0;4 4;1 0;90 4;8 0;4 4;1 0;20 4;6 0;2 4;2 0;28 4;6 0;2 4;4 0;8 4;9 0;1 4;
    6 0;2 4;3 0;2E 4;D 0;1 4;2 0;C6 4;1 0;1 4;3 0;1 4;1 0;7A 5;F 0;40 4;E 0;54 4;17 0;1 4;7 0;
    1 4;2 0;1 4;4B 0;31 4;15 0;1 4;9 0;40 4;3 0;2 4;1 0;1 4;1 0;15B 4;2 0;B 4;2 0;34 4;8 0;
    2 4;1 0;1 4;1 0;17 4;56 0;25 5;2A 0;1441 4;1 0;6 4;19 0;2CBE 4;C 0;3 4;3 0;9C0 4;5 0;3B 4;
    7 0;236 5;3 0;1DF 4;1 0;3F 4;4 0;4F 5;1 0;1 4;C 0;4CAD 4;2 0;F61 5;300 4;50 0;217 4;3 0;
    11 4;8 0;2 4;7 0;1E 4;4 0;3B 5;59 4;3 5;7B 0;40 5;60 0;6A0 4;37 0;4 4;32 0;8 4;1 0;E 4;
    1 0;16 4;465 0;100 4;100 0;30 4;7 0;177 4;12 0;2C 4;4 0;F 5;1D1 0;1C 4;4 0;FE 4;2 0;F 5;
    C1 0;23 4;1 0;2 4;1 0;7 4;2 0;5 4;9 0;102 1;D0 4;52 1;22 4;7 1;5A5 5;260 0;1D 5;3 0;3D 5;
    39 0;7A 5;DA0 0"

/-- The direction of a code point. -/
def direction (x : Nat) : Direction :=
  match directionChanges.row? x with
  | some (_, [1]) => .rightToLeft
  | some (_, [2]) => .arabicNumber
  | some (_, [3]) => .europeanNumber
  | some (_, [4]) => .mark
  | some (_, [5]) => .neutral
  | _ => .leftToRight

end Formwork.DomainName
