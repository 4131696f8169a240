import JobNotice.Text.CodePoints

/-!
# Classes of the characters of domains: the tables

## Main definitions

* `Idna.directions` — the direction classes of characters that do not run from left to right:
  1 for right to left, 2 for Arabic letters, 3 for Arabic digits, 4 for European digits, 5 for
  separators, terminators and neutral characters, 6 for marks, 7 for all others
* `Idna.joinings` — how characters join: 1 on both sides, 2 on the left, 3 on the right, 4 not
  breaking a joint
* `Idna.marks` — the general category of marks
-/

namespace JobNotice.Idna

/-- Direction classes. -/
def directions : Text.CodePoints := .ofText
  "0-8:5 9-D:7 E-1B:5 1C-20:7 21-2F:5 30-39:4 3A-60:5 7B-D7:5 F7:5 2B9-2BA:5 2C2-2CF:5 2D2-2ED:5
   2EF-2FF:5 300-36F:6 375:5 3F6:5 483-489:6 58A-58F:5 591-5BD:6 5BE:1 5BF:6 5C0:1 5C1-5C2:6 5C3:1
   5C4-5C5:6 5C6:1 5C7:6 5D0-5F4:1 606-607:5 608:2 609-60A:5 60B:2 60C:5 60D:2 60E-60F:5 610-61A:6
   61B-64A:2 64B-65F:6 660-669:3 66A:5 66B-66C:3 66D-66F:2 670:6 671-6D5:2 6D6-6DC:6 6DE:5
   6DF-6E4:6 6E5-6E6:2 6E7-6E8:6 6E9:5 6EA-6ED:6 6EE-6EF:2 6F0-6F9:4 6FA-710:2 711:6 712-72F:2
   730-74A:6 74D-7A5:2 7A6-7B0:6 7B1:2 7C0-7EA:1 7EB-7F3:6 7F4-7F5:1 7F6-7F9:5 7FA:1 7FD:6
   7FE-815:1 816-819:6 81A:1 81B-823:6 824:1 825-827:6 828:1 829-82D:6 830-858:1 859-85B:6 85E:1
   860-897:2 898-89F:6 8A0-8C9:2 8CA-902:6 93A:6 93C:6 941-948:6 94D:6 951-957:6 962-963:6 981:6
   9BC:6 9C1-9C4:6 9CD:6 9E2-9E3:6 9F2-9F3:5 9FB:5 9FE-A02:6 A3C:6 A41-A51:6 A70-A71:6 A75:6
   A81-A82:6 ABC:6 AC1-AC8:6 ACD:6 AE2-AE3:6 AF1:5 AFA-B01:6 B3C:6 B3F:6 B41-B44:6 B4D-B56:6
   B62-B63:6 B82:6 BC0:6 BCD:6 BF3-BFA:5 C00:6 C04:6 C3C:6 C3E-C40:6 C46-C56:6 C62-C63:6 C78-C7E:5
   C81:6 CBC:6 CCC-CCD:6 CE2-CE3:6 D00-D01:6 D3B-D3C:6 D41-D44:6 D4D:6 D62-D63:6 D81:6 DCA:6
   DD2-DD6:6 E31:6 E34-E3A:6 E3F:5 E47-E4E:6 EB1:6 EB4-EBC:6 EC8-ECE:6 F18-F19:6 F35:6 F37:6 F39:6
   F3A-F3D:5 F71-F7E:6 F80-F84:6 F86-F87:6 F8D-FBC:6 FC6:6 102D-1030:6 1032-1037:6 1039-103A:6
   103D-103E:6 1058-1059:6 105E-1060:6 1071-1074:6 1082:6 1085-1086:6 108D:6 109D:6 135D-135F:6
   1390-1399:5 1400:5 169B-169C:5 1712-1714:6 1732-1733:6 1752-1753:6 1772-1773:6 17B7-17BD:6
   17C6:6 17C9-17D3:6 17DB:5 17DD:6 17F0-180A:5 1885-1886:6 18A9:6 1920-1922:6 1927-1928:6 1932:6
   1939-193B:6 1940-1945:5 19DE-19FF:5 1A17-1A18:6 1A1B:6 1A56:6 1A58-1A60:6 1A62:6 1A65-1A6C:6
   1A73-1A7F:6 1AB0-1ACE:6 1B00-1B03:6 1B34:6 1B36-1B3A:6 1B3C:6 1B42:6 1B6B-1B73:6 1B80-1B81:6
   1BA2-1BA5:6 1BA8-1BA9:6 1BAB-1BAD:6 1BE6:6 1BE8-1BE9:6 1BED:6 1BEF-1BF1:6 1C2C-1C33:6
   1C36-1C37:6 1CD0-1CD2:6 1CD4-1CE0:6 1CE2-1CE8:6 1CED:6 1CF4:6 1CF8-1CF9:6 1DC0-1DFF:6
   200C-20C1:5 20D0-20F0:6 2104-214D:5 218A-2335:5 237B-2394:5 2396-2426:5 2440-26AB:5 26AD-27FF:5
   2900-2B95:5 2B97-2BFF:5 2CE5-2CEA:5 2CEF-2CF1:6 2CF9-2CFF:5 2D7F:6 2DE0-2DFF:6 2E00-3004:5
   3008-3020:5 302A-302D:6 3030:5 3037:5 303D-303F:5 3099-309A:6 30A0:5 30FB:5 31C0-31E3:5
   4DC0-4DFF:5 A490-A4C6:5 A60D-A60F:5 A66F-A672:6 A673:5 A674-A67D:6 A67E-A67F:5 A69E-A69F:6
   A6F0-A6F1:6 A700-A721:5 A788:5 A802:6 A806:6 A80B:6 A825-A826:6 A828-A82B:5 A82C:6 A838-A839:5
   A874-A877:5 A8C4-A8C5:6 A8E0-A8F1:6 A8FF:6 A926-A92D:6 A947-A951:6 A980-A982:6 A9B3:6
   A9B6-A9B9:6 A9BC-A9BD:6 A9E5:6 AA29-AA2E:6 AA31-AA32:6 AA35-AA36:6 AA43:6 AA4C:6 AA7C:6 AAB0:6
   AAB2-AAB4:6 AAB7-AAB8:6 AABE-AABF:6 AAC1:6 AAEC-AAED:6 AAF6:6 AB6A-AB6B:5 ABE5:6 ABE8:6 ABED:6
   FB1E:6 FBB2-FBD2:2 FD3E-FD4F:5 FD90-FDCE:2 FDCF-FDFF:5 FE20-FE2F:6 FE45-FE46:5 FE73:2 10101:5
   10140-1018C:5 10190-101A0:5 101FD:6 102E0:6 102E1-102FB:4 10376-1037A:6 10800-1091B:1 1091F:5
   10920-10A00:1 10A01-10A0F:6 10A10-10A35:1 10A38-10A3F:6 10A40-10AE4:1 10AE5-10AE6:6
   10AEB-10B35:1 10B39-10B3F:5 10B40-10CFF:1 10D00-10D23:2 10D24-10D27:6 10D30-10D39:3
   10D40-10D8F:1 10E60-10E7E:3 10E80-10EA9:1 10EAB-10EAC:6 10EAD-10EB1:1 10EC2-10EFC:2
   10EFD-10EFF:6 10F00-10F27:1 10F30-10F45:2 10F46-10F50:6 10F51-10F59:2 10F70-10F81:1
   10F82-10F85:6 10F86-10FF6:1 11001:6 11038-11046:6 11052-11065:5 11070:6 11073-11074:6
   1107F-11081:6 110B3-110B6:6 110B9-110BA:6 110C2:6 11100-11102:6 11127-1112B:6 1112D-11134:6
   11173:6 11180-11181:6 111B6-111BE:6 111C9-111CC:6 111CF:6 1122F-11231:6 11234:6 11236-11237:6
   1123E:6 11241:6 112DF:6 112E3-112EA:6 11300-11301:6 1133B-1133C:6 11340:6 11366-11374:6
   11438-1143F:6 11442-11444:6 11446:6 1145E:6 114B3-114B8:6 114BA:6 114BF-114C0:6 114C2-114C3:6
   115B2-115B5:6 115BC-115BD:6 115BF-115C0:6 115DC-115DD:6 11633-1163A:6 1163D:6 1163F-11640:6
   11660-1166C:5 116AB:6 116AD:6 116B0-116B5:6 116B7:6 1171D-1171F:6 11722-11725:6 11727-1172B:6
   1182F-11837:6 11839-1183A:6 1193B-1193C:6 1193E:6 11943:6 119D4-119DB:6 119E0:6 11A01-11A06:6
   11A09-11A0A:6 11A33-11A38:6 11A3B-11A3E:6 11A47:6 11A51-11A56:6 11A59-11A5B:6 11A8A-11A96:6
   11A98-11A99:6 11C30-11C3D:6 11C92-11CA7:6 11CAA-11CB0:6 11CB2-11CB3:6 11CB5-11CB6:6
   11D31-11D45:6 11D47:6 11D90-11D91:6 11D95:6 11D97:6 11EF3-11EF4:6 11F00-11F01:6 11F36-11F3A:6
   11F40:6 11F42:6 11FD5-11FF1:5 13440:6 13447-13455:6 16AF0-16AF4:6 16B30-16B36:6 16F4F:6
   16F8F-16F92:6 16FE2:5 16FE4:6 1BC9D-1BC9E:6 1CF00-1CF46:6 1D167-1D169:6 1D17B-1D182:6
   1D185-1D18B:6 1D1AA-1D1AD:6 1D1E9-1D241:5 1D242-1D244:6 1D245:5 1D300-1D356:5 1DA00-1DA36:6
   1DA3B-1DA6C:6 1DA75:6 1DA84:6 1DA9B-1DAAF:6 1E000-1E08F:6 1E130-1E136:6 1E2AE:6 1E2EC-1E2EF:6
   1E2FF:5 1E4EC-1E4EF:6 1E800-1E8CF:1 1E8D0-1E8D6:6 1E922-1E943:1 1E944-1E94A:6 1E94B-1E95F:1
   1EC71-1ED3D:2 1EEF0-1F12F:5 1F16D-1F16F:5 1F1AD:5 1F260-1F6D7:5 1F6DC-1F776:5 1F77B-1F8B1:5
   1F900-1FA53:5 1FA60-1FA88:5 1FA90-1FABD:5 1FABF-1FAC5:5 1FACE-1FADB:5 1FAE0-1FAE8:5
   1FAF0-1FBCA:5"

/-- Joining types. -/
def joinings : Text.CodePoints := .ofText
  "300-36F:4 483-489:4 591-5BD:4 5BF:4 5C1-5C2:4 5C4-5C5:4 5C7:4 610-61A:4 620:1 622-625:3 626:1
   627:3 628:1 629:3 62A-62E:1 62F-632:3 633-63F:1 641-647:1 648:3 649-64A:1 64B-65F:4 66E-66F:1
   670:4 671-673:3 679-687:1 688-699:3 69A-6BF:1 6C0:3 6C1-6C2:1 6C3-6CB:3 6CC:1 6CD:3 6CE:1 6CF:3
   6D0-6D1:1 6D2-6D3:3 6D5:3 6D6-6DC:4 6DF-6E4:4 6E7-6E8:4 6EA-6ED:4 6EE-6EF:3 6FA-6FC:1 6FF:1
   710:3 711:4 712-714:1 715-719:3 71A-71D:1 71E:3 71F-727:1 728:3 729:1 72A:3 72B:1 72C:3
   72D-72E:1 72F:3 730-74A:4 74D:3 74E-758:1 759-75B:3 75C-76A:1 76B-76C:3 76D-770:1 771:3 772:1
   773-774:3 775-777:1 778-779:3 77A-77F:1 7A6-7B0:4 7CA-7EA:1 7EB-7F3:4 7FD:4 816-819:4 81B-823:4
   825-827:4 829-82D:4 840:3 841-845:1 846-847:3 848:1 849:3 84A-853:1 854:3 855:1 856-858:3
   859-85B:4 860:1 862-865:1 867:3 868:1 869-882:3 886:1 889-88D:1 88E:3 898-89F:4 8A0-8A9:1
   8AA-8AC:3 8AE:3 8AF-8B0:1 8B1-8B2:3 8B3-8B8:1 8B9:3 8BA-8C8:1 8CA-902:4 93A:4 93C:4 941-948:4
   94D:4 951-957:4 962-963:4 981:4 9BC:4 9C1-9C4:4 9CD:4 9E2-9E3:4 9FE-A02:4 A3C:4 A41-A51:4
   A70-A71:4 A75:4 A81-A82:4 ABC:4 AC1-AC8:4 ACD:4 AE2-AE3:4 AFA-B01:4 B3C:4 B3F:4 B41-B44:4
   B4D-B56:4 B62-B63:4 B82:4 BC0:4 BCD:4 C00:4 C04:4 C3C:4 C3E-C40:4 C46-C56:4 C62-C63:4 C81:4
   CBC:4 CBF:4 CC6:4 CCC-CCD:4 CE2-CE3:4 D00-D01:4 D3B-D3C:4 D41-D44:4 D4D:4 D62-D63:4 D81:4 DCA:4
   DD2-DD6:4 E31:4 E34-E3A:4 E47-E4E:4 EB1:4 EB4-EBC:4 EC8-ECE:4 F18-F19:4 F35:4 F37:4 F39:4
   F71-F7E:4 F80-F84:4 F86-F87:4 F8D-FBC:4 FC6:4 102D-1030:4 1032-1037:4 1039-103A:4 103D-103E:4
   1058-1059:4 105E-1060:4 1071-1074:4 1082:4 1085-1086:4 108D:4 109D:4 135D-135F:4 1712-1714:4
   1732-1733:4 1752-1753:4 1772-1773:4 17B7-17BD:4 17C6:4 17C9-17D3:4 17DD:4 1807:1 1820-1878:1
   1885-1886:4 1887-18A8:1 18A9:4 18AA:1 1920-1922:4 1927-1928:4 1932:4 1939-193B:4 1A17-1A18:4
   1A1B:4 1A56:4 1A58-1A60:4 1A62:4 1A65-1A6C:4 1A73-1A7F:4 1AB0-1ACE:4 1B00-1B03:4 1B34:4
   1B36-1B3A:4 1B3C:4 1B42:4 1B6B-1B73:4 1B80-1B81:4 1BA2-1BA5:4 1BA8-1BA9:4 1BAB-1BAD:4 1BE6:4
   1BE8-1BE9:4 1BED:4 1BEF-1BF1:4 1C2C-1C33:4 1C36-1C37:4 1CD0-1CD2:4 1CD4-1CE0:4 1CE2-1CE8:4
   1CED:4 1CF4:4 1CF8-1CF9:4 1DC0-1DFF:4 20D0-20F0:4 2CEF-2CF1:4 2D7F:4 2DE0-2DFF:4 302A-302D:4
   3099-309A:4 A66F-A672:4 A674-A67D:4 A69E-A69F:4 A6F0-A6F1:4 A802:4 A806:4 A80B:4 A825-A826:4
   A82C:4 A840-A871:1 A872:2 A8C4-A8C5:4 A8E0-A8F1:4 A8FF:4 A926-A92D:4 A947-A951:4 A980-A982:4
   A9B3:4 A9B6-A9B9:4 A9BC-A9BD:4 A9E5:4 AA29-AA2E:4 AA31-AA32:4 AA35-AA36:4 AA43:4 AA4C:4 AA7C:4
   AAB0:4 AAB2-AAB4:4 AAB7-AAB8:4 AABE-AABF:4 AAC1:4 AAEC-AAED:4 AAF6:4 ABE5:4 ABE8:4 ABED:4 FB1E:4
   FE20-FE2F:4 101FD:4 102E0:4 10376-1037A:4 10A01-10A0F:4 10A38-10A3F:4 10AC0-10AC4:1 10AC5:3
   10AC7:3 10AC9-10ACA:3 10ACD:2 10ACE-10AD2:3 10AD3-10AD6:1 10AD7:2 10AD8-10ADC:1 10ADD:3
   10ADE-10AE0:1 10AE1:3 10AE4:3 10AE5-10AE6:4 10AEB-10AEE:1 10AEF:3 10B80:1 10B81:3 10B82:1
   10B83-10B85:3 10B86-10B88:1 10B89:3 10B8A-10B8B:1 10B8C:3 10B8D:1 10B8E-10B8F:3 10B90:1 10B91:3
   10BA9-10BAC:3 10BAD-10BAE:1 10D00:2 10D01-10D21:1 10D22:3 10D23:1 10D24-10D27:4 10EAB-10EAC:4
   10EFD-10EFF:4 10F30-10F32:1 10F33:3 10F34-10F44:1 10F46-10F50:4 10F51-10F53:1 10F54:3
   10F70-10F73:1 10F74-10F75:3 10F76-10F81:1 10F82-10F85:4 10FB0:1 10FB2-10FB3:1 10FB4-10FB6:3
   10FB8:1 10FB9-10FBA:3 10FBB-10FBC:1 10FBD:3 10FBE-10FBF:1 10FC1:1 10FC2-10FC3:3 10FC4:1 10FC9:3
   10FCA:1 10FCB:2 11001:4 11038-11046:4 11070:4 11073-11074:4 1107F-11081:4 110B3-110B6:4
   110B9-110BA:4 110C2:4 11100-11102:4 11127-1112B:4 1112D-11134:4 11173:4 11180-11181:4
   111B6-111BE:4 111C9-111CC:4 111CF:4 1122F-11231:4 11234:4 11236-11237:4 1123E:4 11241:4 112DF:4
   112E3-112EA:4 11300-11301:4 1133B-1133C:4 11340:4 11366-11374:4 11438-1143F:4 11442-11444:4
   11446:4 1145E:4 114B3-114B8:4 114BA:4 114BF-114C0:4 114C2-114C3:4 115B2-115B5:4 115BC-115BD:4
   115BF-115C0:4 115DC-115DD:4 11633-1163A:4 1163D:4 1163F-11640:4 116AB:4 116AD:4 116B0-116B5:4
   116B7:4 1171D-1171F:4 11722-11725:4 11727-1172B:4 1182F-11837:4 11839-1183A:4 1193B-1193C:4
   1193E:4 11943:4 119D4-119DB:4 119E0:4 11A01-11A0A:4 11A33-11A38:4 11A3B-11A3E:4 11A47:4
   11A51-11A56:4 11A59-11A5B:4 11A8A-11A96:4 11A98-11A99:4 11C30-11C3D:4 11C3F:4 11C92-11CA7:4
   11CAA-11CB0:4 11CB2-11CB3:4 11CB5-11CB6:4 11D31-11D45:4 11D47:4 11D90-11D91:4 11D95:4 11D97:4
   11EF3-11EF4:4 11F00-11F01:4 11F36-11F3A:4 11F40:4 11F42:4 13440:4 13447-13455:4 16AF0-16AF4:4
   16B30-16B36:4 16F4F:4 16F8F-16F92:4 16FE4:4 1BC9D-1BC9E:4 1CF00-1CF46:4 1D167-1D169:4
   1D17B-1D182:4 1D185-1D18B:4 1D1AA-1D1AD:4 1D242-1D244:4 1DA00-1DA36:4 1DA3B-1DA6C:4 1DA75:4
   1DA84:4 1DA9B-1DAAF:4 1E000-1E08F:4 1E130-1E136:4 1E2AE:4 1E2EC-1E2EF:4 1E4EC-1E4EF:4
   1E8D0-1E8D6:4 1E922-1E943:1 1E944-1E94B:4"

/-- Marks. -/
def marks : Text.CodePoints := .ofText
  "300-36F 483-489 591-5BD 5BF 5C1-5C2 5C4-5C5 5C7 610-61A 64B-65F 670 6D6-6DC 6DF-6E4 6E7-6E8
   6EA-6ED 711 730-74A 7A6-7B0 7EB-7F3 7FD 816-819 81B-823 825-827 829-82D 859-85B 897-89F 8CA-903
   93A-93C 93E-94F 951-957 962-963 981-983 9BC 9BE-9CD 9D7 9E2-9E3 9FE-A03 A3C-A51 A70-A71 A75
   A81-A83 ABC ABE-ACD AE2-AE3 AFA-B03 B3C B3E-B57 B62-B63 B82 BBE-BCD BD7 C00-C04 C3C C3E-C56
   C62-C63 C81-C83 CBC CBE-CD6 CE2-CE3 CF3-D03 D3B-D3C D3E-D4D D57 D62-D63 D81-D83 DCA-DDF DF2-DF3
   E31 E34-E3A E47-E4E EB1 EB4-EBC EC8-ECE F18-F19 F35 F37 F39 F3E-F3F F71-F84 F86-F87 F8D-FBC FC6
   102B-103E 1056-1059 105E-1060 1062-1064 1067-106D 1071-1074 1082-108D 108F 109A-109D 135D-135F
   1712-1715 1732-1734 1752-1753 1772-1773 17B6-17D3 17DD 1885-1886 18A9 1920-193B 1A17-1A1B
   1A55-1A7F 1AB0-1B04 1B34-1B44 1B6B-1B73 1B80-1B82 1BA1-1BAD 1BE6-1BF3 1C24-1C37 1CD0-1CD2
   1CD4-1CE8 1CED 1CF4 1CF7-1CF9 1DC0-1DFF 20D0-20F0 2CEF-2CF1 2D7F 2DE0-2DFF 302A-302F 3099-309A
   A66F-A672 A674-A67D A69E-A69F A6F0-A6F1 A802 A806 A80B A823-A827 A82C A880-A881 A8B4-A8C5
   A8E0-A8F1 A8FF A926-A92D A947-A953 A980-A983 A9B3-A9C0 A9E5 AA29-AA36 AA43 AA4C-AA4D AA7B-AA7D
   AAB0 AAB2-AAB4 AAB7-AAB8 AABE-AABF AAC1 AAEB-AAEF AAF5-AAF6 ABE3-ABEA ABEC-ABED FB1E FE20-FE2F
   101FD 102E0 10376-1037A 10A01-10A0F 10A38-10A3F 10AE5-10AE6 10D24-10D27 10D69-10D6D 10EAB-10EAC
   10EFA-10EFF 10F46-10F50 10F82-10F85 11000-11002 11038-11046 11070 11073-11074 1107F-11082
   110B0-110BA 110C2 11100-11102 11127-11134 11145-11146 11173 11180-11182 111B3-111C0 111C9-111CC
   111CE-111CF 1122C-11237 1123E 11241 112DF-112EA 11300-11303 1133B-1133C 1133E-1134D 11357
   11362-11374 113B8-113D0 113D2 113E1-113E2 11435-11446 1145E 114B0-114C3 115AF-115C0 115DC-115DD
   11630-11640 116AB-116B7 1171D-1172B 1182C-1183A 11930-1193E 11940 11942-11943 119D1-119E0 119E4
   11A01-11A0A 11A33-11A39 11A3B-11A3E 11A47 11A51-11A5B 11A8A-11A99 11B60-11B67 11C2F-11C3F
   11C92-11CB6 11D31-11D45 11D47 11D8A-11D97 11EF3-11EF6 11F00-11F01 11F03 11F34-11F42 11F5A 13440
   13447-13455 1611E-1612F 16AF0-16AF4 16B30-16B36 16F4F 16F51-16F92 16FE4-16FF1 1BC9D-1BC9E
   1CF00-1CF46 1D165-1D169 1D16D-1D182 1D185-1D18B 1D1AA-1D1AD 1D242-1D244 1DA00-1DA36 1DA3B-1DA6C
   1DA75 1DA84 1DA9B-1DAAF 1E000-1E08F 1E130-1E136 1E2AE 1E2EC-1E2EF 1E4EC-1E4EF 1E5EE-1E5EF 1E6E3
   1E6E6 1E6EE-1E6EF 1E6F5 1E8D0-1E8D6 1E944-1E94A"

end JobNotice.Idna
