import JobNotice.Text.CodePoints

/-!
# Properties that decide where a user-perceived character ends

## Main definitions

* `Text.graphemeClasses` — the class of a character, by number
* `Text.conjunctConsonants`, `Text.conjunctLinkers` — letters that a virama joins, and the viramas
-/

namespace JobNotice.Text

/-- Classes: 1 control, 2 extender, 3 joiner, 4 regional indicator, 5 prefixed mark, 6 spacing
mark, 7 to 9 leading, middle and trailing Hangul letters, A pictographs. -/
def graphemeClasses : CodePoints := .ofText
  "0-1F:1 7F-9F:1 A9:A AD:1 AE:A 300-36F:2 483-489:2 591-5BD:2 5BF:2 5C1-5C2:2 5C4-5C5:2 5C7:2
   600-605:5 610-61A:2 61C:1 64B-65F:2 670:2 6D6-6DC:2 6DD:5 6DF-6E4:2 6E7-6E8:2 6EA-6ED:2 70F:5
   711:2 730-74A:2 7A6-7B0:2 7EB-7F3:2 7FD:2 816-819:2 81B-823:2 825-827:2 829-82D:2 859-85B:2
   890-891:5 898-89F:2 8CA-8E1:2 8E2:5 8E3-902:2 903:6 93A:2 93B:6 93C:2 93E-940:6 941-948:2
   949-94C:6 94D:2 94E-94F:6 951-957:2 962-963:2 981:2 982-983:6 9BC:2 9BE:2 9BF-9C0:6 9C1-9C4:2
   9C7-9C8:6 9CB-9CC:6 9CD:2 9D7:2 9E2-9E3:2 9FE:2 A01-A02:2 A03:6 A3C:2 A3E-A40:6 A41-A42:2
   A47-A48:2 A4B-A4D:2 A51:2 A70-A71:2 A75:2 A81-A82:2 A83:6 ABC:2 ABE-AC0:6 AC1-AC5:2 AC7-AC8:2
   AC9:6 ACB-ACC:6 ACD:2 AE2-AE3:2 AFA-AFF:2 B01:2 B02-B03:6 B3C:2 B3E-B3F:2 B40:6 B41-B44:2
   B47-B48:6 B4B-B4C:6 B4D:2 B55-B57:2 B62-B63:2 B82:2 BBE:2 BBF:6 BC0:2 BC1-BC2:6 BC6-BC8:6
   BCA-BCC:6 BCD:2 BD7:2 C00:2 C01-C03:6 C04:2 C3C:2 C3E-C40:2 C41-C44:6 C46-C48:2 C4A-C4D:2
   C55-C56:2 C62-C63:2 C81:2 C82-C83:6 CBC:2 CBE:6 CBF:2 CC0-CC1:6 CC2:2 CC3-CC4:6 CC6:2
   CC7-CC8:6 CCA-CCB:6 CCC-CCD:2 CD5-CD6:2 CE2-CE3:2 CF3:6 D00-D01:2 D02-D03:6 D3B-D3C:2 D3E:2
   D3F-D40:6 D41-D44:2 D46-D48:6 D4A-D4C:6 D4D:2 D4E:5 D57:2 D62-D63:2 D81:2 D82-D83:6 DCA:2
   DCF:2 DD0-DD1:6 DD2-DD4:2 DD6:2 DD8-DDE:6 DDF:2 DF2-DF3:6 E31:2 E33:6 E34-E3A:2 E47-E4E:2
   EB1:2 EB3:6 EB4-EBC:2 EC8-ECE:2 F18-F19:2 F35:2 F37:2 F39:2 F3E-F3F:6 F71-F7E:2 F7F:6
   F80-F84:2 F86-F87:2 F8D-F97:2 F99-FBC:2 FC6:2 102D-1030:2 1031:6 1032-1037:2 1039-103A:2
   103B-103C:6 103D-103E:2 1056-1057:6 1058-1059:2 105E-1060:2 1071-1074:2 1082:2 1084:6
   1085-1086:2 108D:2 109D:2 1100-115F:7 1160-11A7:8 11A8-11FF:9 135D-135F:2 1712-1714:2 1715:6
   1732-1733:2 1734:6 1752-1753:2 1772-1773:2 17B4-17B5:2 17B6:6 17B7-17BD:2 17BE-17C5:6 17C6:2
   17C7-17C8:6 17C9-17D3:2 17DD:2 180B-180D:2 180E:1 180F:2 1885-1886:2 18A9:2 1920-1922:2
   1923-1926:6 1927-1928:2 1929-192B:6 1930-1931:6 1932:2 1933-1938:6 1939-193B:2 1A17-1A18:2
   1A19-1A1A:6 1A1B:2 1A55:6 1A56:2 1A57:6 1A58-1A5E:2 1A60:2 1A62:2 1A65-1A6C:2 1A6D-1A72:6
   1A73-1A7C:2 1A7F:2 1AB0-1ACE:2 1B00-1B03:2 1B04:6 1B34-1B3A:2 1B3B:6 1B3C:2 1B3D-1B41:6 1B42:2
   1B43-1B44:6 1B6B-1B73:2 1B80-1B81:2 1B82:6 1BA1:6 1BA2-1BA5:2 1BA6-1BA7:6 1BA8-1BA9:2 1BAA:6
   1BAB-1BAD:2 1BE6:2 1BE7:6 1BE8-1BE9:2 1BEA-1BEC:6 1BED:2 1BEE:6 1BEF-1BF1:2 1BF2-1BF3:6
   1C24-1C2B:6 1C2C-1C33:2 1C34-1C35:6 1C36-1C37:2 1CD0-1CD2:2 1CD4-1CE0:2 1CE1:6 1CE2-1CE8:2
   1CED:2 1CF4:2 1CF7:6 1CF8-1CF9:2 1DC0-1DFF:2 200B:1 200C:2 200D:3 200E-200F:1 2028-202E:1
   203C:A 2049:A 2060-206F:1 20D0-20F0:2 2122:A 2139:A 2194-2199:A 21A9-21AA:A 231A-231B:A 2328:A
   2388:A 23CF:A 23E9-23F3:A 23F8-23FA:A 24C2:A 25AA-25AB:A 25B6:A 25C0:A 25FB-25FE:A 2600-2605:A
   2607-2612:A 2614-2685:A 2690-2705:A 2708-2712:A 2714:A 2716:A 271D:A 2721:A 2728:A 2733-2734:A
   2744:A 2747:A 274C:A 274E:A 2753-2755:A 2757:A 2763-2767:A 2795-2797:A 27A1:A 27B0:A 27BF:A
   2934-2935:A 2B05-2B07:A 2B1B-2B1C:A 2B50:A 2B55:A 2CEF-2CF1:2 2D7F:2 2DE0-2DFF:2 302A-302F:2
   3030:A 303D:A 3099-309A:2 3297:A 3299:A A66F-A672:2 A674-A67D:2 A69E-A69F:2 A6F0-A6F1:2 A802:2
   A806:2 A80B:2 A823-A824:6 A825-A826:2 A827:6 A82C:2 A880-A881:6 A8B4-A8C3:6 A8C4-A8C5:2
   A8E0-A8F1:2 A8FF:2 A926-A92D:2 A947-A951:2 A952-A953:6 A960-A97C:7 A980-A982:2 A983:6 A9B3:2
   A9B4-A9B5:6 A9B6-A9B9:2 A9BA-A9BB:6 A9BC-A9BD:2 A9BE-A9C0:6 A9E5:2 AA29-AA2E:2 AA2F-AA30:6
   AA31-AA32:2 AA33-AA34:6 AA35-AA36:2 AA43:2 AA4C:2 AA4D:6 AA7C:2 AAB0:2 AAB2-AAB4:2 AAB7-AAB8:2
   AABE-AABF:2 AAC1:2 AAEB:6 AAEC-AAED:2 AAEE-AAEF:6 AAF5:6 AAF6:2 ABE3-ABE4:6 ABE5:2 ABE6-ABE7:6
   ABE8:2 ABE9-ABEA:6 ABEC:6 ABED:2 D7B0-D7C6:8 D7CB-D7FB:9 FB1E:2 FE00-FE0F:2 FE20-FE2F:2 FEFF:1
   FF9E-FF9F:2 FFF0-FFFB:1 101FD:2 102E0:2 10376-1037A:2 10A01-10A03:2 10A05-10A06:2
   10A0C-10A0F:2 10A38-10A3A:2 10A3F:2 10AE5-10AE6:2 10D24-10D27:2 10EAB-10EAC:2 10EFD-10EFF:2
   10F46-10F50:2 10F82-10F85:2 11000:6 11001:2 11002:6 11038-11046:2 11070:2 11073-11074:2
   1107F-11081:2 11082:6 110B0-110B2:6 110B3-110B6:2 110B7-110B8:6 110B9-110BA:2 110BD:5 110C2:2
   110CD:5 11100-11102:2 11127-1112B:2 1112C:6 1112D-11134:2 11145-11146:6 11173:2 11180-11181:2
   11182:6 111B3-111B5:6 111B6-111BE:2 111BF-111C0:6 111C2-111C3:5 111C9-111CC:2 111CE:6 111CF:2
   1122C-1122E:6 1122F-11231:2 11232-11233:6 11234:2 11235:6 11236-11237:2 1123E:2 11241:2
   112DF:2 112E0-112E2:6 112E3-112EA:2 11300-11301:2 11302-11303:6 1133B-1133C:2 1133E:2 1133F:6
   11340:2 11341-11344:6 11347-11348:6 1134B-1134D:6 11357:2 11362-11363:6 11366-1136C:2
   11370-11374:2 11435-11437:6 11438-1143F:2 11440-11441:6 11442-11444:2 11445:6 11446:2 1145E:2
   114B0:2 114B1-114B2:6 114B3-114B8:2 114B9:6 114BA:2 114BB-114BC:6 114BD:2 114BE:6
   114BF-114C0:2 114C1:6 114C2-114C3:2 115AF:2 115B0-115B1:6 115B2-115B5:2 115B8-115BB:6
   115BC-115BD:2 115BE:6 115BF-115C0:2 115DC-115DD:2 11630-11632:6 11633-1163A:2 1163B-1163C:6
   1163D:2 1163E:6 1163F-11640:2 116AB:2 116AC:6 116AD:2 116AE-116AF:6 116B0-116B5:2 116B6:6
   116B7:2 1171D-1171F:2 11722-11725:2 11726:6 11727-1172B:2 1182C-1182E:6 1182F-11837:2 11838:6
   11839-1183A:2 11930:2 11931-11935:6 11937-11938:6 1193B-1193C:2 1193D:6 1193E:2 1193F:5
   11940:6 11941:5 11942:6 11943:2 119D1-119D3:6 119D4-119D7:2 119DA-119DB:2 119DC-119DF:6
   119E0:2 119E4:6 11A01-11A0A:2 11A33-11A38:2 11A39:6 11A3A:5 11A3B-11A3E:2 11A47:2
   11A51-11A56:2 11A57-11A58:6 11A59-11A5B:2 11A84-11A89:5 11A8A-11A96:2 11A97:6 11A98-11A99:2
   11C2F:6 11C30-11C36:2 11C38-11C3D:2 11C3E:6 11C3F:2 11C92-11CA7:2 11CA9:6 11CAA-11CB0:2
   11CB1:6 11CB2-11CB3:2 11CB4:6 11CB5-11CB6:2 11D31-11D36:2 11D3A:2 11D3C-11D3D:2 11D3F-11D45:2
   11D46:5 11D47:2 11D8A-11D8E:6 11D90-11D91:2 11D93-11D94:6 11D95:2 11D96:6 11D97:2
   11EF3-11EF4:2 11EF5-11EF6:6 11F00-11F01:2 11F02:5 11F03:6 11F34-11F35:6 11F36-11F3A:2
   11F3E-11F3F:6 11F40:2 11F41:6 11F42:2 13430-1343F:1 13440:2 13447-13455:2 16AF0-16AF4:2
   16B30-16B36:2 16F4F:2 16F51-16F87:6 16F8F-16F92:2 16FE4:2 16FF0-16FF1:6 1BC9D-1BC9E:2
   1BCA0-1BCA3:1 1CF00-1CF2D:2 1CF30-1CF46:2 1D165:2 1D166:6 1D167-1D169:2 1D16D:6 1D16E-1D172:2
   1D173-1D17A:1 1D17B-1D182:2 1D185-1D18B:2 1D1AA-1D1AD:2 1D242-1D244:2 1DA00-1DA36:2
   1DA3B-1DA6C:2 1DA75:2 1DA84:2 1DA9B-1DA9F:2 1DAA1-1DAAF:2 1E000-1E006:2 1E008-1E018:2
   1E01B-1E021:2 1E023-1E024:2 1E026-1E02A:2 1E08F:2 1E130-1E136:2 1E2AE:2 1E2EC-1E2EF:2
   1E4EC-1E4EF:2 1E8D0-1E8D6:2 1E944-1E94A:2 1F000-1F0FF:A 1F10D-1F10F:A 1F12F:A 1F16C-1F171:A
   1F17E-1F17F:A 1F18E:A 1F191-1F19A:A 1F1AD-1F1E5:A 1F1E6-1F1FF:4 1F201-1F20F:A 1F21A:A 1F22F:A
   1F232-1F23A:A 1F23C-1F23F:A 1F249-1F3FA:A 1F3FB-1F3FF:2 1F400-1F53D:A 1F546-1F64F:A
   1F680-1F6FF:A 1F774-1F77F:A 1F7D5-1F7FF:A 1F80C-1F80F:A 1F848-1F84F:A 1F85A-1F85F:A
   1F888-1F88F:A 1F8AE-1F8FF:A 1F90C-1F93A:A 1F93C-1F945:A 1F947-1FAFF:A 1FC00-1FFFD:A
   E0000-E001F:1 E0020-E007F:2 E0080-E00FF:1 E0100-E01EF:2 E01F0-E0FFF:1"

/-- Consonants of the scripts whose conjuncts are one character. -/
def conjunctConsonants : CodePoints := .ofText
  "915-939 958-95F 978-97F 995-9A8 9AA-9B0 9B2 9B6-9B9 9DC-9DD 9DF 9F0-9F1 A95-AA8 AAA-AB0
   AB2-AB3 AB5-AB9 AF9 B15-B28 B2A-B30 B32-B33 B35-B39 B5C-B5D B5F B71 C15-C28 C2A-C39 C58-C5A
   D15-D3A"

/-- Signs that join the consonants on their two sides. -/
def conjunctLinkers : CodePoints := .ofText
  "94D 9CD ACD B4D C4D D4D"

end JobNotice.Text
