import StompConsole.Url.Punycode
import StompConsole.Url.Encoding
import StompConsole.Text.Basic

/-!
# Internationalized domain names

A host name of a special URL is brought to its ASCII form before use (UTS 46 processing, in its
non-transitional form, with the URL standard's forbidden characters):

1. every character is mapped: ASCII letters to lower case, other characters by case folding and
   compatibility decomposition, some to nothing; `ß`, final sigma and the two joiners stay;
2. a forbidden character (a control, space, DEL or one of `% # / : < > ? @ [ \ ] ^ |`) or a
   character that is unassigned, private, a surrogate, a separator or a format control refuses
   the name;
3. the name splits into labels at full stops; a label that starts with `xn--` must be valid
   punycode of a non-ASCII label; any other label that is not ASCII is written as `xn--` and
   its punycode; a label may not start with a combining mark.

The mapping table covers the scripts below U+3400 and the compatibility and half- and
full-width forms of U+F900 to U+FFEF, from Unicode 15.0 case folding with compatibility
decomposition; outside those ranges characters map to themselves.
-/

namespace StompConsole.Url.Idna

open Text

/-- The mapping table as text: entries `S-E>T` (the range `S..E` maps to `T..`), `S:T1.T2`
(one character to several) and `S!` (one character to nothing), in hexadecimal. -/
def mappingText : String :=
  "A0-A0>20 A8:20.308 AA-AA>61 AD! AF:20.304 B2-B3>32 B4:20.301 B5-B5>3BC B8:20.327 B9-B9>31 " ++
  "BA-BA>6F BC:31.2044.34 BD:31.2044.32 BE:33.2044.34 C0-D6>E0 D8-DE>F8 100-100>101 " ++
  "102-102>103 104-104>105 106-106>107 108-108>109 10A-10A>10B 10C-10C>10D 10E-10E>10F " ++
  "110-110>111 112-112>113 114-114>115 116-116>117 118-118>119 11A-11A>11B 11C-11C>11D " ++
  "11E-11E>11F 120-120>121 122-122>123 124-124>125 126-126>127 128-128>129 12A-12A>12B " ++
  "12C-12C>12D 12E-12E>12F 130:69.307 132:69.6A 133:69.6A 134-134>135 136-136>137 139-139>13A " ++
  "13B-13B>13C 13D-13D>13E 13F:6C.B7 140:6C.B7 141-141>142 143-143>144 145-145>146 147-147>148 " ++
  "149:2BC.6E 14A-14A>14B 14C-14C>14D 14E-14E>14F 150-150>151 152-152>153 154-154>155 " ++
  "156-156>157 158-158>159 15A-15A>15B 15C-15C>15D 15E-15E>15F 160-160>161 162-162>163 " ++
  "164-164>165 166-166>167 168-168>169 16A-16A>16B 16C-16C>16D 16E-16E>16F 170-170>171 " ++
  "172-172>173 174-174>175 176-176>177 178-178>FF 179-179>17A 17B-17B>17C 17D-17D>17E " ++
  "17F-17F>73 181-181>253 182-182>183 184-184>185 186-186>254 187-187>188 189-18A>256 " ++
  "18B-18B>18C 18E-18E>1DD 18F-18F>259 190-190>25B 191-191>192 193-193>260 194-194>263 " ++
  "196-196>269 197-197>268 198-198>199 19C-19C>26F 19D-19D>272 19F-19F>275 1A0-1A0>1A1 " ++
  "1A2-1A2>1A3 1A4-1A4>1A5 1A6-1A6>280 1A7-1A7>1A8 1A9-1A9>283 1AC-1AC>1AD 1AE-1AE>288 " ++
  "1AF-1AF>1B0 1B1-1B2>28A 1B3-1B3>1B4 1B5-1B5>1B6 1B7-1B7>292 1B8-1B8>1B9 1BC-1BC>1BD " ++
  "1C4:64.17E 1C5:64.17E 1C6:64.17E 1C7:6C.6A 1C8:6C.6A 1C9:6C.6A 1CA:6E.6A 1CB:6E.6A " ++
  "1CC:6E.6A 1CD-1CD>1CE 1CF-1CF>1D0 1D1-1D1>1D2 1D3-1D3>1D4 1D5-1D5>1D6 1D7-1D7>1D8 " ++
  "1D9-1D9>1DA 1DB-1DB>1DC 1DE-1DE>1DF 1E0-1E0>1E1 1E2-1E2>1E3 1E4-1E4>1E5 1E6-1E6>1E7 " ++
  "1E8-1E8>1E9 1EA-1EA>1EB 1EC-1EC>1ED 1EE-1EE>1EF 1F1:64.7A 1F2:64.7A 1F3:64.7A 1F4-1F4>1F5 " ++
  "1F6-1F6>195 1F7-1F7>1BF 1F8-1F8>1F9 1FA-1FA>1FB 1FC-1FC>1FD 1FE-1FE>1FF 200-200>201 " ++
  "202-202>203 204-204>205 206-206>207 208-208>209 20A-20A>20B 20C-20C>20D 20E-20E>20F " ++
  "210-210>211 212-212>213 214-214>215 216-216>217 218-218>219 21A-21A>21B 21C-21C>21D " ++
  "21E-21E>21F 220-220>19E 222-222>223 224-224>225 226-226>227 228-228>229 22A-22A>22B " ++
  "22C-22C>22D 22E-22E>22F 230-230>231 232-232>233 23A-23A>2C65 23B-23B>23C 23D-23D>19A " ++
  "23E-23E>2C66 241-241>242 243-243>180 244-244>289 245-245>28C 246-246>247 248-248>249 " ++
  "24A-24A>24B 24C-24C>24D 24E-24E>24F 2B0-2B0>68 2B1-2B1>266 2B2-2B2>6A 2B3-2B3>72 " ++
  "2B4-2B4>279 2B5-2B5>27B 2B6-2B6>281 2B7-2B7>77 2B8-2B8>79 2D8:20.306 2D9:20.307 2DA:20.30A " ++
  "2DB:20.328 2DC:20.303 2DD:20.30B 2E0-2E0>263 2E1-2E1>6C 2E2-2E2>73 2E3-2E3>78 2E4-2E4>295 " ++
  "340-341>300 343-343>313 344:308.301 345-345>3B9 34F! 370-370>371 372-372>373 374-374>2B9 " ++
  "376-376>377 37A:20.3B9 37E-37E>3B 37F-37F>3F3 384:20.301 385:20.308.301 386-386>3AC " ++
  "387-387>B7 388-38A>3AD 38C-38C>3CC 38E-38F>3CD 391-3A1>3B1 3A3-3AB>3C3 3CF-3CF>3D7 " ++
  "3D0-3D0>3B2 3D1-3D1>3B8 3D2-3D2>3C5 3D3-3D3>3CD 3D4-3D4>3CB 3D5-3D5>3C6 3D6-3D6>3C0 " ++
  "3D8-3D8>3D9 3DA-3DA>3DB 3DC-3DC>3DD 3DE-3DE>3DF 3E0-3E0>3E1 3E2-3E2>3E3 3E4-3E4>3E5 " ++
  "3E6-3E6>3E7 3E8-3E8>3E9 3EA-3EA>3EB 3EC-3EC>3ED 3EE-3EE>3EF 3F0-3F0>3BA 3F1-3F1>3C1 " ++
  "3F2-3F2>3C3 3F4-3F4>3B8 3F5-3F5>3B5 3F7-3F7>3F8 3F9-3F9>3C3 3FA-3FA>3FB 3FD-3FF>37B " ++
  "400-40F>450 410-42F>430 460-460>461 462-462>463 464-464>465 466-466>467 468-468>469 " ++
  "46A-46A>46B 46C-46C>46D 46E-46E>46F 470-470>471 472-472>473 474-474>475 476-476>477 " ++
  "478-478>479 47A-47A>47B 47C-47C>47D 47E-47E>47F 480-480>481 48A-48A>48B 48C-48C>48D " ++
  "48E-48E>48F 490-490>491 492-492>493 494-494>495 496-496>497 498-498>499 49A-49A>49B " ++
  "49C-49C>49D 49E-49E>49F 4A0-4A0>4A1 4A2-4A2>4A3 4A4-4A4>4A5 4A6-4A6>4A7 4A8-4A8>4A9 " ++
  "4AA-4AA>4AB 4AC-4AC>4AD 4AE-4AE>4AF 4B0-4B0>4B1 4B2-4B2>4B3 4B4-4B4>4B5 4B6-4B6>4B7 " ++
  "4B8-4B8>4B9 4BA-4BA>4BB 4BC-4BC>4BD 4BE-4BE>4BF 4C0-4C0>4CF 4C1-4C1>4C2 4C3-4C3>4C4 " ++
  "4C5-4C5>4C6 4C7-4C7>4C8 4C9-4C9>4CA 4CB-4CB>4CC 4CD-4CD>4CE 4D0-4D0>4D1 4D2-4D2>4D3 " ++
  "4D4-4D4>4D5 4D6-4D6>4D7 4D8-4D8>4D9 4DA-4DA>4DB 4DC-4DC>4DD 4DE-4DE>4DF 4E0-4E0>4E1 " ++
  "4E2-4E2>4E3 4E4-4E4>4E5 4E6-4E6>4E7 4E8-4E8>4E9 4EA-4EA>4EB 4EC-4EC>4ED 4EE-4EE>4EF " ++
  "4F0-4F0>4F1 4F2-4F2>4F3 4F4-4F4>4F5 4F6-4F6>4F7 4F8-4F8>4F9 4FA-4FA>4FB 4FC-4FC>4FD " ++
  "4FE-4FE>4FF 500-500>501 502-502>503 504-504>505 506-506>507 508-508>509 50A-50A>50B " ++
  "50C-50C>50D 50E-50E>50F 510-510>511 512-512>513 514-514>515 516-516>517 518-518>519 " ++
  "51A-51A>51B 51C-51C>51D 51E-51E>51F 520-520>521 522-522>523 524-524>525 526-526>527 " ++
  "528-528>529 52A-52A>52B 52C-52C>52D 52E-52E>52F 531-556>561 587:565.582 61C! 675:627.674 " ++
  "676:648.674 677:6C7.674 678:64A.674 958:915.93C 959:916.93C 95A:917.93C 95B:91C.93C " ++
  "95C:921.93C 95D:922.93C 95E:92B.93C 95F:92F.93C 9DC:9A1.9BC 9DD:9A2.9BC 9DF:9AF.9BC " ++
  "A33:A32.A3C A36:A38.A3C A59:A16.A3C A5A:A17.A3C A5B:A1C.A3C A5E:A2B.A3C B5C:B21.B3C " ++
  "B5D:B22.B3C E33:E4D.E32 EB3:ECD.EB2 EDC:EAB.E99 EDD:EAB.EA1 F0C-F0C>F0B F43:F42.FB7 " ++
  "F4D:F4C.FB7 F52:F51.FB7 F57:F56.FB7 F5C:F5B.FB7 F69:F40.FB5 F73:F71.F72 F75:F71.F74 " ++
  "F76:FB2.F80 F77:FB2.F71.F80 F78:FB3.F80 F79:FB3.F71.F80 F81:F71.F80 F93:F92.FB7 F9D:F9C.FB7 " ++
  "FA2:FA1.FB7 FA7:FA6.FB7 FAC:FAB.FB7 FB9:F90.FB5 10A0-10C5>2D00 10C7-10C7>2D27 " ++
  "10CD-10CD>2D2D 10FC-10FC>10DC 115F! 1160! 13F8-13FD>13F0 17B4! 17B5! 180B! 180C! 180D! " ++
  "180E! 180F! 1C80-1C80>432 1C81-1C81>434 1C82-1C82>43E 1C83-1C84>441 1C85-1C85>442 " ++
  "1C86-1C86>44A 1C87-1C87>463 1C88-1C88>A64B 1C90-1CBA>10D0 1CBD-1CBF>10FD 1D2C-1D2C>61 " ++
  "1D2D-1D2D>E6 1D2E-1D2E>62 1D30-1D31>64 1D32-1D32>1DD 1D33-1D3A>67 1D3C-1D3C>6F " ++
  "1D3D-1D3D>223 1D3E-1D3E>70 1D3F-1D3F>72 1D40-1D41>74 1D42-1D42>77 1D43-1D43>61 " ++
  "1D44-1D45>250 1D46-1D46>1D02 1D47-1D47>62 1D48-1D49>64 1D4A-1D4A>259 1D4B-1D4C>25B " ++
  "1D4D-1D4D>67 1D4F-1D4F>6B 1D50-1D50>6D 1D51-1D51>14B 1D52-1D52>6F 1D53-1D53>254 " ++
  "1D54-1D55>1D16 1D56-1D56>70 1D57-1D58>74 1D59-1D59>1D1D 1D5A-1D5A>26F 1D5B-1D5B>76 " ++
  "1D5C-1D5C>1D25 1D5D-1D5F>3B2 1D60-1D61>3C6 1D62-1D62>69 1D63-1D63>72 1D64-1D65>75 " ++
  "1D66-1D67>3B2 1D68-1D68>3C1 1D69-1D6A>3C6 1D78-1D78>43D 1D9B-1D9B>252 1D9C-1D9C>63 " ++
  "1D9D-1D9D>255 1D9E-1D9E>F0 1D9F-1D9F>25C 1DA0-1DA0>66 1DA1-1DA1>25F 1DA2-1DA2>261 " ++
  "1DA3-1DA3>265 1DA4-1DA6>268 1DA7-1DA7>1D7B 1DA8-1DA8>29D 1DA9-1DA9>26D 1DAA-1DAA>1D85 " ++
  "1DAB-1DAB>29F 1DAC-1DAC>271 1DAD-1DAD>270 1DAE-1DB1>272 1DB2-1DB2>278 1DB3-1DB4>282 " ++
  "1DB5-1DB5>1AB 1DB6-1DB7>289 1DB8-1DB8>1D1C 1DB9-1DBA>28B 1DBB-1DBB>7A 1DBC-1DBE>290 " ++
  "1DBF-1DBF>3B8 1E00-1E00>1E01 1E02-1E02>1E03 1E04-1E04>1E05 1E06-1E06>1E07 1E08-1E08>1E09 " ++
  "1E0A-1E0A>1E0B 1E0C-1E0C>1E0D 1E0E-1E0E>1E0F 1E10-1E10>1E11 1E12-1E12>1E13 1E14-1E14>1E15 " ++
  "1E16-1E16>1E17 1E18-1E18>1E19 1E1A-1E1A>1E1B 1E1C-1E1C>1E1D 1E1E-1E1E>1E1F 1E20-1E20>1E21 " ++
  "1E22-1E22>1E23 1E24-1E24>1E25 1E26-1E26>1E27 1E28-1E28>1E29 1E2A-1E2A>1E2B 1E2C-1E2C>1E2D " ++
  "1E2E-1E2E>1E2F 1E30-1E30>1E31 1E32-1E32>1E33 1E34-1E34>1E35 1E36-1E36>1E37 1E38-1E38>1E39 " ++
  "1E3A-1E3A>1E3B 1E3C-1E3C>1E3D 1E3E-1E3E>1E3F 1E40-1E40>1E41 1E42-1E42>1E43 1E44-1E44>1E45 " ++
  "1E46-1E46>1E47 1E48-1E48>1E49 1E4A-1E4A>1E4B 1E4C-1E4C>1E4D 1E4E-1E4E>1E4F 1E50-1E50>1E51 " ++
  "1E52-1E52>1E53 1E54-1E54>1E55 1E56-1E56>1E57 1E58-1E58>1E59 1E5A-1E5A>1E5B 1E5C-1E5C>1E5D " ++
  "1E5E-1E5E>1E5F 1E60-1E60>1E61 1E62-1E62>1E63 1E64-1E64>1E65 1E66-1E66>1E67 1E68-1E68>1E69 " ++
  "1E6A-1E6A>1E6B 1E6C-1E6C>1E6D 1E6E-1E6E>1E6F 1E70-1E70>1E71 1E72-1E72>1E73 1E74-1E74>1E75 " ++
  "1E76-1E76>1E77 1E78-1E78>1E79 1E7A-1E7A>1E7B 1E7C-1E7C>1E7D 1E7E-1E7E>1E7F 1E80-1E80>1E81 " ++
  "1E82-1E82>1E83 1E84-1E84>1E85 1E86-1E86>1E87 1E88-1E88>1E89 1E8A-1E8A>1E8B 1E8C-1E8C>1E8D " ++
  "1E8E-1E8E>1E8F 1E90-1E90>1E91 1E92-1E92>1E93 1E94-1E94>1E95 1E9A:61.2BE 1E9B-1E9B>1E61 " ++
  "1E9E:73.73 1EA0-1EA0>1EA1 1EA2-1EA2>1EA3 1EA4-1EA4>1EA5 1EA6-1EA6>1EA7 1EA8-1EA8>1EA9 " ++
  "1EAA-1EAA>1EAB 1EAC-1EAC>1EAD 1EAE-1EAE>1EAF 1EB0-1EB0>1EB1 1EB2-1EB2>1EB3 1EB4-1EB4>1EB5 " ++
  "1EB6-1EB6>1EB7 1EB8-1EB8>1EB9 1EBA-1EBA>1EBB 1EBC-1EBC>1EBD 1EBE-1EBE>1EBF 1EC0-1EC0>1EC1 " ++
  "1EC2-1EC2>1EC3 1EC4-1EC4>1EC5 1EC6-1EC6>1EC7 1EC8-1EC8>1EC9 1ECA-1ECA>1ECB 1ECC-1ECC>1ECD " ++
  "1ECE-1ECE>1ECF 1ED0-1ED0>1ED1 1ED2-1ED2>1ED3 1ED4-1ED4>1ED5 1ED6-1ED6>1ED7 1ED8-1ED8>1ED9 " ++
  "1EDA-1EDA>1EDB 1EDC-1EDC>1EDD 1EDE-1EDE>1EDF 1EE0-1EE0>1EE1 1EE2-1EE2>1EE3 1EE4-1EE4>1EE5 " ++
  "1EE6-1EE6>1EE7 1EE8-1EE8>1EE9 1EEA-1EEA>1EEB 1EEC-1EEC>1EED 1EEE-1EEE>1EEF 1EF0-1EF0>1EF1 " ++
  "1EF2-1EF2>1EF3 1EF4-1EF4>1EF5 1EF6-1EF6>1EF7 1EF8-1EF8>1EF9 1EFA-1EFA>1EFB 1EFC-1EFC>1EFD " ++
  "1EFE-1EFE>1EFF 1F08-1F0F>1F00 1F18-1F1D>1F10 1F28-1F2F>1F20 1F38-1F3F>1F30 1F48-1F4D>1F40 " ++
  "1F59-1F59>1F51 1F5B-1F5B>1F53 1F5D-1F5D>1F55 1F5F-1F5F>1F57 1F68-1F6F>1F60 1F71-1F71>3AC " ++
  "1F73-1F73>3AD 1F75-1F75>3AE 1F77-1F77>3AF 1F79-1F79>3CC 1F7B-1F7B>3CD 1F7D-1F7D>3CE " ++
  "1F80:1F00.3B9 1F81:1F01.3B9 1F82:1F02.3B9 1F83:1F03.3B9 1F84:1F04.3B9 1F85:1F05.3B9 " ++
  "1F86:1F06.3B9 1F87:1F07.3B9 1F88:1F00.3B9 1F89:1F01.3B9 1F8A:1F02.3B9 1F8B:1F03.3B9 " ++
  "1F8C:1F04.3B9 1F8D:1F05.3B9 1F8E:1F06.3B9 1F8F:1F07.3B9 1F90:1F20.3B9 1F91:1F21.3B9 " ++
  "1F92:1F22.3B9 1F93:1F23.3B9 1F94:1F24.3B9 1F95:1F25.3B9 1F96:1F26.3B9 1F97:1F27.3B9 " ++
  "1F98:1F20.3B9 1F99:1F21.3B9 1F9A:1F22.3B9 1F9B:1F23.3B9 1F9C:1F24.3B9 1F9D:1F25.3B9 " ++
  "1F9E:1F26.3B9 1F9F:1F27.3B9 1FA0:1F60.3B9 1FA1:1F61.3B9 1FA2:1F62.3B9 1FA3:1F63.3B9 " ++
  "1FA4:1F64.3B9 1FA5:1F65.3B9 1FA6:1F66.3B9 1FA7:1F67.3B9 1FA8:1F60.3B9 1FA9:1F61.3B9 " ++
  "1FAA:1F62.3B9 1FAB:1F63.3B9 1FAC:1F64.3B9 1FAD:1F65.3B9 1FAE:1F66.3B9 1FAF:1F67.3B9 " ++
  "1FB2:1F70.3B9 1FB3:3B1.3B9 1FB4:3AC.3B9 1FB7:1FB6.3B9 1FB8-1FB9>1FB0 1FBA-1FBA>1F70 " ++
  "1FBB-1FBB>3AC 1FBC:3B1.3B9 1FBD:20.313 1FBE-1FBE>3B9 1FBF:20.313 1FC0:20.342 " ++
  "1FC1:20.308.342 1FC2:1F74.3B9 1FC3:3B7.3B9 1FC4:3AE.3B9 1FC7:1FC6.3B9 1FC8-1FC8>1F72 " ++
  "1FC9-1FC9>3AD 1FCA-1FCA>1F74 1FCB-1FCB>3AE 1FCC:3B7.3B9 1FCD:20.313.300 1FCE:20.313.301 " ++
  "1FCF:20.313.342 1FD3-1FD3>390 1FD8-1FD9>1FD0 1FDA-1FDA>1F76 1FDB-1FDB>3AF 1FDD:20.314.300 " ++
  "1FDE:20.314.301 1FDF:20.314.342 1FE3-1FE3>3B0 1FE8-1FE9>1FE0 1FEA-1FEA>1F7A 1FEB-1FEB>3CD " ++
  "1FEC-1FEC>1FE5 1FED:20.308.300 1FEE:20.308.301 1FEF-1FEF>60 1FF2:1F7C.3B9 1FF3:3C9.3B9 " ++
  "1FF4:3CE.3B9 1FF7:1FF6.3B9 1FF8-1FF8>1F78 1FF9-1FF9>3CC 1FFA-1FFA>1F7C 1FFB-1FFB>3CE " ++
  "1FFC:3C9.3B9 1FFD:20.301 1FFE:20.314 2000-2000>20 2001-2001>20 2002-2002>20 2003-2003>20 " ++
  "2004-2004>20 2005-2005>20 2006-2006>20 2007-2007>20 2008-2008>20 2009-2009>20 200A-200A>20 " ++
  "200B! 200E! 200F! 2011-2011>2010 2017:20.333 2024-2024>2E 2025:2E.2E 2026:2E.2E.2E 202A! " ++
  "202B! 202C! 202D! 202E! 202F-202F>20 2033:2032.2032 2034:2032.2032.2032 2036:2035.2035 " ++
  "2037:2035.2035.2035 203C:21.21 203E:20.305 2047:3F.3F 2048:3F.21 2049:21.3F " ++
  "2057:2032.2032.2032.2032 205F-205F>20 2060! 2061! 2062! 2063! 2064! 2065! 2066! 2067! 2068! " ++
  "2069! 206A! 206B! 206C! 206D! 206E! 206F! 2070-2070>30 2071-2071>69 2074-2079>34 " ++
  "207A-207A>2B 207B-207B>2212 207C-207C>3D 207D-207E>28 207F-207F>6E 2080-2089>30 " ++
  "208A-208A>2B 208B-208B>2212 208C-208C>3D 208D-208E>28 2090-2090>61 2091-2091>65 " ++
  "2092-2092>6F 2093-2093>78 2094-2094>259 2095-2095>68 2096-2099>6B 209A-209A>70 209B-209C>73 " ++
  "20A8:72.73 2100:61.2F.63 2101:61.2F.73 2102-2102>63 2103:B0.63 2105:63.2F.6F 2106:63.2F.75 " ++
  "2107-2107>25B 2109:B0.66 210A-210B>67 210C-210C>68 210D-210D>68 210E-210E>68 210F-210F>127 " ++
  "2110-2110>69 2111-2111>69 2112-2112>6C 2113-2113>6C 2115-2115>6E 2116:6E.6F 2119-211B>70 " ++
  "211C-211C>72 211D-211D>72 2120:73.6D 2121:74.65.6C 2122:74.6D 2124-2124>7A 2126-2126>3C9 " ++
  "2128-2128>7A 212A-212A>6B 212B-212B>E5 212C-212D>62 212F-212F>65 2130-2131>65 " ++
  "2132-2132>214E 2133-2133>6D 2134-2134>6F 2135-2138>5D0 2139-2139>69 213B:66.61.78 " ++
  "213C-213C>3C0 213D-213D>3B3 213E-213E>3B3 213F-213F>3C0 2140-2140>2211 2145-2145>64 " ++
  "2146-2147>64 2148-2149>69 2150:31.2044.37 2151:31.2044.39 2152:31.2044.31.30 " ++
  "2153:31.2044.33 2154:32.2044.33 2155:31.2044.35 2156:32.2044.35 2157:33.2044.35 " ++
  "2158:34.2044.35 2159:31.2044.36 215A:35.2044.36 215B:31.2044.38 215C:33.2044.38 " ++
  "215D:35.2044.38 215E:37.2044.38 215F:31.2044 2160-2160>69 2161:69.69 2162:69.69.69 " ++
  "2163:69.76 2164-2164>76 2165:76.69 2166:76.69.69 2167:76.69.69.69 2168:69.78 2169-2169>78 " ++
  "216A:78.69 216B:78.69.69 216C-216C>6C 216D-216E>63 216F-216F>6D 2170-2170>69 2171:69.69 " ++
  "2172:69.69.69 2173:69.76 2174-2174>76 2175:76.69 2176:76.69.69 2177:76.69.69.69 2178:69.78 " ++
  "2179-2179>78 217A:78.69 217B:78.69.69 217C-217C>6C 217D-217E>63 217F-217F>6D 2183-2183>2184 " ++
  "2189:30.2044.33 222C:222B.222B 222D:222B.222B.222B 222F:222E.222E 2230:222E.222E.222E " ++
  "2329-232A>3008 2460-2468>31 2469:31.30 246A:31.31 246B:31.32 246C:31.33 246D:31.34 " ++
  "246E:31.35 246F:31.36 2470:31.37 2471:31.38 2472:31.39 2473:32.30 2474:28.31.29 " ++
  "2475:28.32.29 2476:28.33.29 2477:28.34.29 2478:28.35.29 2479:28.36.29 247A:28.37.29 " ++
  "247B:28.38.29 247C:28.39.29 247D:28.31.30.29 247E:28.31.31.29 247F:28.31.32.29 " ++
  "2480:28.31.33.29 2481:28.31.34.29 2482:28.31.35.29 2483:28.31.36.29 2484:28.31.37.29 " ++
  "2485:28.31.38.29 2486:28.31.39.29 2487:28.32.30.29 2488:31.2E 2489:32.2E 248A:33.2E " ++
  "248B:34.2E 248C:35.2E 248D:36.2E 248E:37.2E 248F:38.2E 2490:39.2E 2491:31.30.2E " ++
  "2492:31.31.2E 2493:31.32.2E 2494:31.33.2E 2495:31.34.2E 2496:31.35.2E 2497:31.36.2E " ++
  "2498:31.37.2E 2499:31.38.2E 249A:31.39.2E 249B:32.30.2E 249C:28.61.29 249D:28.62.29 " ++
  "249E:28.63.29 249F:28.64.29 24A0:28.65.29 24A1:28.66.29 24A2:28.67.29 24A3:28.68.29 " ++
  "24A4:28.69.29 24A5:28.6A.29 24A6:28.6B.29 24A7:28.6C.29 24A8:28.6D.29 24A9:28.6E.29 " ++
  "24AA:28.6F.29 24AB:28.70.29 24AC:28.71.29 24AD:28.72.29 24AE:28.73.29 24AF:28.74.29 " ++
  "24B0:28.75.29 24B1:28.76.29 24B2:28.77.29 24B3:28.78.29 24B4:28.79.29 24B5:28.7A.29 " ++
  "24B6-24CF>61 24D0-24E9>61 24EA-24EA>30 2A0C:222B.222B.222B.222B 2A74:3A.3A.3D 2A75:3D.3D " ++
  "2A76:3D.3D.3D 2ADC:2ADD.338 2C00-2C2F>2C30 2C60-2C60>2C61 2C62-2C62>26B 2C63-2C63>1D7D " ++
  "2C64-2C64>27D 2C67-2C67>2C68 2C69-2C69>2C6A 2C6B-2C6B>2C6C 2C6D-2C6D>251 2C6E-2C6E>271 " ++
  "2C6F-2C6F>250 2C70-2C70>252 2C72-2C72>2C73 2C75-2C75>2C76 2C7C-2C7C>6A 2C7D-2C7D>76 " ++
  "2C7E-2C7F>23F 2C80-2C80>2C81 2C82-2C82>2C83 2C84-2C84>2C85 2C86-2C86>2C87 2C88-2C88>2C89 " ++
  "2C8A-2C8A>2C8B 2C8C-2C8C>2C8D 2C8E-2C8E>2C8F 2C90-2C90>2C91 2C92-2C92>2C93 2C94-2C94>2C95 " ++
  "2C96-2C96>2C97 2C98-2C98>2C99 2C9A-2C9A>2C9B 2C9C-2C9C>2C9D 2C9E-2C9E>2C9F 2CA0-2CA0>2CA1 " ++
  "2CA2-2CA2>2CA3 2CA4-2CA4>2CA5 2CA6-2CA6>2CA7 2CA8-2CA8>2CA9 2CAA-2CAA>2CAB 2CAC-2CAC>2CAD " ++
  "2CAE-2CAE>2CAF 2CB0-2CB0>2CB1 2CB2-2CB2>2CB3 2CB4-2CB4>2CB5 2CB6-2CB6>2CB7 2CB8-2CB8>2CB9 " ++
  "2CBA-2CBA>2CBB 2CBC-2CBC>2CBD 2CBE-2CBE>2CBF 2CC0-2CC0>2CC1 2CC2-2CC2>2CC3 2CC4-2CC4>2CC5 " ++
  "2CC6-2CC6>2CC7 2CC8-2CC8>2CC9 2CCA-2CCA>2CCB 2CCC-2CCC>2CCD 2CCE-2CCE>2CCF 2CD0-2CD0>2CD1 " ++
  "2CD2-2CD2>2CD3 2CD4-2CD4>2CD5 2CD6-2CD6>2CD7 2CD8-2CD8>2CD9 2CDA-2CDA>2CDB 2CDC-2CDC>2CDD " ++
  "2CDE-2CDE>2CDF 2CE0-2CE0>2CE1 2CE2-2CE2>2CE3 2CEB-2CEB>2CEC 2CED-2CED>2CEE 2CF2-2CF2>2CF3 " ++
  "2D6F-2D6F>2D61 2E9F-2E9F>6BCD 2EF3-2EF3>9F9F 2F00-2F00>4E00 2F01-2F01>4E28 2F02-2F02>4E36 " ++
  "2F03-2F03>4E3F 2F04-2F04>4E59 2F05-2F05>4E85 2F06-2F06>4E8C 2F07-2F07>4EA0 2F08-2F08>4EBA " ++
  "2F09-2F09>513F 2F0A-2F0A>5165 2F0B-2F0B>516B 2F0C-2F0C>5182 2F0D-2F0D>5196 2F0E-2F0E>51AB " ++
  "2F0F-2F0F>51E0 2F10-2F10>51F5 2F11-2F11>5200 2F12-2F12>529B 2F13-2F13>52F9 2F14-2F14>5315 " ++
  "2F15-2F15>531A 2F16-2F16>5338 2F17-2F17>5341 2F18-2F18>535C 2F19-2F19>5369 2F1A-2F1A>5382 " ++
  "2F1B-2F1B>53B6 2F1C-2F1C>53C8 2F1D-2F1D>53E3 2F1E-2F1E>56D7 2F1F-2F1F>571F 2F20-2F20>58EB " ++
  "2F21-2F21>5902 2F22-2F22>590A 2F23-2F23>5915 2F24-2F24>5927 2F25-2F25>5973 2F26-2F26>5B50 " ++
  "2F27-2F27>5B80 2F28-2F28>5BF8 2F29-2F29>5C0F 2F2A-2F2A>5C22 2F2B-2F2B>5C38 2F2C-2F2C>5C6E " ++
  "2F2D-2F2D>5C71 2F2E-2F2E>5DDB 2F2F-2F2F>5DE5 2F30-2F30>5DF1 2F31-2F31>5DFE 2F32-2F32>5E72 " ++
  "2F33-2F33>5E7A 2F34-2F34>5E7F 2F35-2F35>5EF4 2F36-2F36>5EFE 2F37-2F37>5F0B 2F38-2F38>5F13 " ++
  "2F39-2F39>5F50 2F3A-2F3A>5F61 2F3B-2F3B>5F73 2F3C-2F3C>5FC3 2F3D-2F3D>6208 2F3E-2F3E>6236 " ++
  "2F3F-2F3F>624B 2F40-2F40>652F 2F41-2F41>6534 2F42-2F42>6587 2F43-2F43>6597 2F44-2F44>65A4 " ++
  "2F45-2F45>65B9 2F46-2F46>65E0 2F47-2F47>65E5 2F48-2F48>66F0 2F49-2F49>6708 2F4A-2F4A>6728 " ++
  "2F4B-2F4B>6B20 2F4C-2F4C>6B62 2F4D-2F4D>6B79 2F4E-2F4E>6BB3 2F4F-2F4F>6BCB 2F50-2F50>6BD4 " ++
  "2F51-2F51>6BDB 2F52-2F52>6C0F 2F53-2F53>6C14 2F54-2F54>6C34 2F55-2F55>706B 2F56-2F56>722A " ++
  "2F57-2F57>7236 2F58-2F58>723B 2F59-2F59>723F 2F5A-2F5A>7247 2F5B-2F5B>7259 2F5C-2F5C>725B " ++
  "2F5D-2F5D>72AC 2F5E-2F5E>7384 2F5F-2F5F>7389 2F60-2F60>74DC 2F61-2F61>74E6 2F62-2F62>7518 " ++
  "2F63-2F63>751F 2F64-2F64>7528 2F65-2F65>7530 2F66-2F66>758B 2F67-2F67>7592 2F68-2F68>7676 " ++
  "2F69-2F69>767D 2F6A-2F6A>76AE 2F6B-2F6B>76BF 2F6C-2F6C>76EE 2F6D-2F6D>77DB 2F6E-2F6E>77E2 " ++
  "2F6F-2F6F>77F3 2F70-2F70>793A 2F71-2F71>79B8 2F72-2F72>79BE 2F73-2F73>7A74 2F74-2F74>7ACB " ++
  "2F75-2F75>7AF9 2F76-2F76>7C73 2F77-2F77>7CF8 2F78-2F78>7F36 2F79-2F79>7F51 2F7A-2F7A>7F8A " ++
  "2F7B-2F7B>7FBD 2F7C-2F7C>8001 2F7D-2F7D>800C 2F7E-2F7E>8012 2F7F-2F7F>8033 2F80-2F80>807F " ++
  "2F81-2F81>8089 2F82-2F82>81E3 2F83-2F83>81EA 2F84-2F84>81F3 2F85-2F85>81FC 2F86-2F86>820C " ++
  "2F87-2F87>821B 2F88-2F88>821F 2F89-2F89>826E 2F8A-2F8A>8272 2F8B-2F8B>8278 2F8C-2F8C>864D " ++
  "2F8D-2F8D>866B 2F8E-2F8E>8840 2F8F-2F8F>884C 2F90-2F90>8863 2F91-2F91>897E 2F92-2F92>898B " ++
  "2F93-2F93>89D2 2F94-2F94>8A00 2F95-2F95>8C37 2F96-2F96>8C46 2F97-2F97>8C55 2F98-2F98>8C78 " ++
  "2F99-2F99>8C9D 2F9A-2F9A>8D64 2F9B-2F9B>8D70 2F9C-2F9C>8DB3 2F9D-2F9D>8EAB 2F9E-2F9E>8ECA " ++
  "2F9F-2F9F>8F9B 2FA0-2FA0>8FB0 2FA1-2FA1>8FB5 2FA2-2FA2>9091 2FA3-2FA3>9149 2FA4-2FA4>91C6 " ++
  "2FA5-2FA5>91CC 2FA6-2FA6>91D1 2FA7-2FA7>9577 2FA8-2FA8>9580 2FA9-2FA9>961C 2FAA-2FAA>96B6 " ++
  "2FAB-2FAB>96B9 2FAC-2FAC>96E8 2FAD-2FAD>9751 2FAE-2FAE>975E 2FAF-2FAF>9762 2FB0-2FB0>9769 " ++
  "2FB1-2FB1>97CB 2FB2-2FB2>97ED 2FB3-2FB3>97F3 2FB4-2FB4>9801 2FB5-2FB5>98A8 2FB6-2FB6>98DB " ++
  "2FB7-2FB7>98DF 2FB8-2FB8>9996 2FB9-2FB9>9999 2FBA-2FBA>99AC 2FBB-2FBB>9AA8 2FBC-2FBC>9AD8 " ++
  "2FBD-2FBD>9ADF 2FBE-2FBE>9B25 2FBF-2FBF>9B2F 2FC0-2FC0>9B32 2FC1-2FC1>9B3C 2FC2-2FC2>9B5A " ++
  "2FC3-2FC3>9CE5 2FC4-2FC4>9E75 2FC5-2FC5>9E7F 2FC6-2FC6>9EA5 2FC7-2FC7>9EBB 2FC8-2FC8>9EC3 " ++
  "2FC9-2FC9>9ECD 2FCA-2FCA>9ED1 2FCB-2FCB>9EF9 2FCC-2FCC>9EFD 2FCD-2FCD>9F0E 2FCE-2FCE>9F13 " ++
  "2FCF-2FCF>9F20 2FD0-2FD0>9F3B 2FD1-2FD1>9F4A 2FD2-2FD2>9F52 2FD3-2FD3>9F8D 2FD4-2FD4>9F9C " ++
  "2FD5-2FD5>9FA0 3000-3000>20 3036-3036>3012 3038-3038>5341 3039-303A>5344 309B:20.3099 " ++
  "309C:20.309A 309F:3088.308A 30FF:30B3.30C8 3131-3132>1100 3133-3133>11AA 3134-3134>1102 " ++
  "3135-3136>11AC 3137-3139>1103 313A-313F>11B0 3140-3140>111A 3141-3143>1106 3144-3144>1121 " ++
  "3145-314E>1109 314F-3163>1161 3164! 3165-3166>1114 3167-3168>11C7 3169-3169>11CC " ++
  "316A-316A>11CE 316B-316B>11D3 316C-316C>11D7 316D-316D>11D9 316E-316E>111C 316F-316F>11DD " ++
  "3170-3170>11DF 3171-3172>111D 3173-3173>1120 3174-3175>1122 3176-3176>1127 3177-3177>1129 " ++
  "3178-317C>112B 317D-317D>1132 317E-317E>1136 317F-317F>1140 3180-3180>1147 3181-3181>114C " ++
  "3182-3183>11F1 3184-3186>1157 3187-3188>1184 3189-3189>1188 318A-318B>1191 318C-318C>1194 " ++
  "318D-318D>119E 318E-318E>11A1 3192-3192>4E00 3193-3193>4E8C 3194-3194>4E09 3195-3195>56DB " ++
  "3196-3196>4E0A 3197-3197>4E2D 3198-3198>4E0B 3199-3199>7532 319A-319A>4E59 319B-319B>4E19 " ++
  "319C-319C>4E01 319D-319D>5929 319E-319E>5730 319F-319F>4EBA 3200:28.1100.29 3201:28.1102.29 " ++
  "3202:28.1103.29 3203:28.1105.29 3204:28.1106.29 3205:28.1107.29 3206:28.1109.29 " ++
  "3207:28.110B.29 3208:28.110C.29 3209:28.110E.29 320A:28.110F.29 320B:28.1110.29 " ++
  "320C:28.1111.29 320D:28.1112.29 320E:28.AC00.29 320F:28.B098.29 3210:28.B2E4.29 " ++
  "3211:28.B77C.29 3212:28.B9C8.29 3213:28.BC14.29 3214:28.C0AC.29 3215:28.C544.29 " ++
  "3216:28.C790.29 3217:28.CC28.29 3218:28.CE74.29 3219:28.D0C0.29 321A:28.D30C.29 " ++
  "321B:28.D558.29 321C:28.C8FC.29 321D:28.C624.C804.29 321E:28.C624.D6C4.29 3220:28.4E00.29 " ++
  "3221:28.4E8C.29 3222:28.4E09.29 3223:28.56DB.29 3224:28.4E94.29 3225:28.516D.29 " ++
  "3226:28.4E03.29 3227:28.516B.29 3228:28.4E5D.29 3229:28.5341.29 322A:28.6708.29 " ++
  "322B:28.706B.29 322C:28.6C34.29 322D:28.6728.29 322E:28.91D1.29 322F:28.571F.29 " ++
  "3230:28.65E5.29 3231:28.682A.29 3232:28.6709.29 3233:28.793E.29 3234:28.540D.29 " ++
  "3235:28.7279.29 3236:28.8CA1.29 3237:28.795D.29 3238:28.52B4.29 3239:28.4EE3.29 " ++
  "323A:28.547C.29 323B:28.5B66.29 323C:28.76E3.29 323D:28.4F01.29 323E:28.8CC7.29 " ++
  "323F:28.5354.29 3240:28.796D.29 3241:28.4F11.29 3242:28.81EA.29 3243:28.81F3.29 " ++
  "3244-3244>554F 3245-3245>5E7C 3246-3246>6587 3247-3247>7B8F 3250:70.74.65 3251:32.31 " ++
  "3252:32.32 3253:32.33 3254:32.34 3255:32.35 3256:32.36 3257:32.37 3258:32.38 3259:32.39 " ++
  "325A:33.30 325B:33.31 325C:33.32 325D:33.33 325E:33.34 325F:33.35 3260-3260>1100 " ++
  "3261-3262>1102 3263-3265>1105 3266-3266>1109 3267-3268>110B 3269-326D>110E 326E-326E>AC00 " ++
  "326F-326F>B098 3270-3270>B2E4 3271-3271>B77C 3272-3272>B9C8 3273-3273>BC14 3274-3274>C0AC " ++
  "3275-3275>C544 3276-3276>C790 3277-3277>CC28 3278-3278>CE74 3279-3279>D0C0 327A-327A>D30C " ++
  "327B-327B>D558 327C:CC38.ACE0 327D:C8FC.C758 327E-327E>C6B0 3280-3280>4E00 3281-3281>4E8C " ++
  "3282-3282>4E09 3283-3283>56DB 3284-3284>4E94 3285-3285>516D 3286-3286>4E03 3287-3287>516B " ++
  "3288-3288>4E5D 3289-3289>5341 328A-328A>6708 328B-328B>706B 328C-328C>6C34 328D-328D>6728 " ++
  "328E-328E>91D1 328F-328F>571F 3290-3290>65E5 3291-3291>682A 3292-3292>6709 3293-3293>793E " ++
  "3294-3294>540D 3295-3295>7279 3296-3296>8CA1 3297-3297>795D 3298-3298>52B4 3299-3299>79D8 " ++
  "329A-329A>7537 329B-329B>5973 329C-329C>9069 329D-329D>512A 329E-329E>5370 329F-329F>6CE8 " ++
  "32A0-32A0>9805 32A1-32A1>4F11 32A2-32A2>5199 32A3-32A3>6B63 32A4-32A4>4E0A 32A5-32A5>4E2D " ++
  "32A6-32A6>4E0B 32A7-32A7>5DE6 32A8-32A8>53F3 32A9-32A9>533B 32AA-32AA>5B97 32AB-32AB>5B66 " ++
  "32AC-32AC>76E3 32AD-32AD>4F01 32AE-32AE>8CC7 32AF-32AF>5354 32B0-32B0>591C 32B1:33.36 " ++
  "32B2:33.37 32B3:33.38 32B4:33.39 32B5:34.30 32B6:34.31 32B7:34.32 32B8:34.33 32B9:34.34 " ++
  "32BA:34.35 32BB:34.36 32BC:34.37 32BD:34.38 32BE:34.39 32BF:35.30 32C0:31.6708 32C1:32.6708 " ++
  "32C2:33.6708 32C3:34.6708 32C4:35.6708 32C5:36.6708 32C6:37.6708 32C7:38.6708 32C8:39.6708 " ++
  "32C9:31.30.6708 32CA:31.31.6708 32CB:31.32.6708 32CC:68.67 32CD:65.72.67 32CE:65.76 " ++
  "32CF:6C.74.64 32D0-32D0>30A2 32D1-32D1>30A4 32D2-32D2>30A6 32D3-32D3>30A8 32D4-32D5>30AA " ++
  "32D6-32D6>30AD 32D7-32D7>30AF 32D8-32D8>30B1 32D9-32D9>30B3 32DA-32DA>30B5 32DB-32DB>30B7 " ++
  "32DC-32DC>30B9 32DD-32DD>30BB 32DE-32DE>30BD 32DF-32DF>30BF 32E0-32E0>30C1 32E1-32E1>30C4 " ++
  "32E2-32E2>30C6 32E3-32E3>30C8 32E4-32E9>30CA 32EA-32EA>30D2 32EB-32EB>30D5 32EC-32EC>30D8 " ++
  "32ED-32ED>30DB 32EE-32F2>30DE 32F3-32F3>30E4 32F4-32F4>30E6 32F5-32FA>30E8 32FB-32FE>30EF " ++
  "32FF:4EE4.548C 3300:30A2.30D1.30FC.30C8 3301:30A2.30EB.30D5.30A1 3302:30A2.30F3.30DA.30A2 " ++
  "3303:30A2.30FC.30EB 3304:30A4.30CB.30F3.30B0 3305:30A4.30F3.30C1 3306:30A6.30A9.30F3 " ++
  "3307:30A8.30B9.30AF.30FC.30C9 3308:30A8.30FC.30AB.30FC 3309:30AA.30F3.30B9 " ++
  "330A:30AA.30FC.30E0 330B:30AB.30A4.30EA 330C:30AB.30E9.30C3.30C8 330D:30AB.30ED.30EA.30FC " ++
  "330E:30AC.30ED.30F3 330F:30AC.30F3.30DE 3310:30AE.30AC 3311:30AE.30CB.30FC " ++
  "3312:30AD.30E5.30EA.30FC 3313:30AE.30EB.30C0.30FC 3314:30AD.30ED " ++
  "3315:30AD.30ED.30B0.30E9.30E0 3316:30AD.30ED.30E1.30FC.30C8.30EB " ++
  "3317:30AD.30ED.30EF.30C3.30C8 3318:30B0.30E9.30E0 3319:30B0.30E9.30E0.30C8.30F3 " ++
  "331A:30AF.30EB.30BC.30A4.30ED 331B:30AF.30ED.30FC.30CD 331C:30B1.30FC.30B9 " ++
  "331D:30B3.30EB.30CA 331E:30B3.30FC.30DD 331F:30B5.30A4.30AF.30EB " ++
  "3320:30B5.30F3.30C1.30FC.30E0 3321:30B7.30EA.30F3.30B0 3322:30BB.30F3.30C1 " ++
  "3323:30BB.30F3.30C8 3324:30C0.30FC.30B9 3325:30C7.30B7 3326:30C9.30EB 3327:30C8.30F3 " ++
  "3328:30CA.30CE 3329:30CE.30C3.30C8 332A:30CF.30A4.30C4 332B:30D1.30FC.30BB.30F3.30C8 " ++
  "332C:30D1.30FC.30C4 332D:30D0.30FC.30EC.30EB 332E:30D4.30A2.30B9.30C8.30EB " ++
  "332F:30D4.30AF.30EB 3330:30D4.30B3 3331:30D3.30EB 3332:30D5.30A1.30E9.30C3.30C9 " ++
  "3333:30D5.30A3.30FC.30C8 3334:30D6.30C3.30B7.30A7.30EB 3335:30D5.30E9.30F3 " ++
  "3336:30D8.30AF.30BF.30FC.30EB 3337:30DA.30BD 3338:30DA.30CB.30D2 3339:30D8.30EB.30C4 " ++
  "333A:30DA.30F3.30B9 333B:30DA.30FC.30B8 333C:30D9.30FC.30BF 333D:30DD.30A4.30F3.30C8 " ++
  "333E:30DC.30EB.30C8 333F:30DB.30F3 3340:30DD.30F3.30C9 3341:30DB.30FC.30EB " ++
  "3342:30DB.30FC.30F3 3343:30DE.30A4.30AF.30ED 3344:30DE.30A4.30EB 3345:30DE.30C3.30CF " ++
  "3346:30DE.30EB.30AF 3347:30DE.30F3.30B7.30E7.30F3 3348:30DF.30AF.30ED.30F3 3349:30DF.30EA " ++
  "334A:30DF.30EA.30D0.30FC.30EB 334B:30E1.30AC 334C:30E1.30AC.30C8.30F3 " ++
  "334D:30E1.30FC.30C8.30EB 334E:30E4.30FC.30C9 334F:30E4.30FC.30EB 3350:30E6.30A2.30F3 " ++
  "3351:30EA.30C3.30C8.30EB 3352:30EA.30E9 3353:30EB.30D4.30FC 3354:30EB.30FC.30D6.30EB " ++
  "3355:30EC.30E0 3356:30EC.30F3.30C8.30B2.30F3 3357:30EF.30C3.30C8 3358:30.70B9 3359:31.70B9 " ++
  "335A:32.70B9 335B:33.70B9 335C:34.70B9 335D:35.70B9 335E:36.70B9 335F:37.70B9 3360:38.70B9 " ++
  "3361:39.70B9 3362:31.30.70B9 3363:31.31.70B9 3364:31.32.70B9 3365:31.33.70B9 " ++
  "3366:31.34.70B9 3367:31.35.70B9 3368:31.36.70B9 3369:31.37.70B9 336A:31.38.70B9 " ++
  "336B:31.39.70B9 336C:32.30.70B9 336D:32.31.70B9 336E:32.32.70B9 336F:32.33.70B9 " ++
  "3370:32.34.70B9 3371:68.70.61 3372:64.61 3373:61.75 3374:62.61.72 3375:6F.76 3376:70.63 " ++
  "3377:64.6D 3378:64.6D.32 3379:64.6D.33 337A:69.75 337B:5E73.6210 337C:662D.548C " ++
  "337D:5927.6B63 337E:660E.6CBB 337F:682A.5F0F.4F1A.793E 3380:70.61 3381:6E.61 3382:3BC.61 " ++
  "3383:6D.61 3384:6B.61 3385:6B.62 3386:6D.62 3387:67.62 3388:63.61.6C 3389:6B.63.61.6C " ++
  "338A:70.66 338B:6E.66 338C:3BC.66 338D:3BC.67 338E:6D.67 338F:6B.67 3390:68.7A " ++
  "3391:6B.68.7A 3392:6D.68.7A 3393:67.68.7A 3394:74.68.7A 3395:3BC.6C 3396:6D.6C 3397:64.6C " ++
  "3398:6B.6C 3399:66.6D 339A:6E.6D 339B:3BC.6D 339C:6D.6D 339D:63.6D 339E:6B.6D 339F:6D.6D.32 " ++
  "33A0:63.6D.32 33A1:6D.32 33A2:6B.6D.32 33A3:6D.6D.33 33A4:63.6D.33 33A5:6D.33 33A6:6B.6D.33 " ++
  "33A7:6D.2215.73 33A8:6D.2215.73.32 33A9:70.61 33AA:6B.70.61 33AB:6D.70.61 33AC:67.70.61 " ++
  "33AD:72.61.64 33AE:72.61.64.2215.73 33AF:72.61.64.2215.73.32 33B0:70.73 33B1:6E.73 " ++
  "33B2:3BC.73 33B3:6D.73 33B4:70.76 33B5:6E.76 33B6:3BC.76 33B7:6D.76 33B8:6B.76 33B9:6D.76 " ++
  "33BA:70.77 33BB:6E.77 33BC:3BC.77 33BD:6D.77 33BE:6B.77 33BF:6D.77 33C0:6B.3C9 33C1:6D.3C9 " ++
  "33C2:61.2E.6D.2E 33C3:62.71 33C4:63.63 33C5:63.64 33C6:63.2215.6B.67 33C7:63.6F.2E " ++
  "33C8:64.62 33C9:67.79 33CA:68.61 33CB:68.70 33CC:69.6E 33CD:6B.6B 33CE:6B.6D 33CF:6B.74 " ++
  "33D0:6C.6D 33D1:6C.6E 33D2:6C.6F.67 33D3:6C.78 33D4:6D.62 33D5:6D.69.6C 33D6:6D.6F.6C " ++
  "33D7:70.68 33D8:70.2E.6D.2E 33D9:70.70.6D 33DA:70.72 33DB:73.72 33DC:73.76 33DD:77.62 " ++
  "33DE:76.2215.6D 33DF:61.2215.6D 33E0:31.65E5 33E1:32.65E5 33E2:33.65E5 33E3:34.65E5 " ++
  "33E4:35.65E5 33E5:36.65E5 33E6:37.65E5 33E7:38.65E5 33E8:39.65E5 33E9:31.30.65E5 " ++
  "33EA:31.31.65E5 33EB:31.32.65E5 33EC:31.33.65E5 33ED:31.34.65E5 33EE:31.35.65E5 " ++
  "33EF:31.36.65E5 33F0:31.37.65E5 33F1:31.38.65E5 33F2:31.39.65E5 33F3:32.30.65E5 " ++
  "33F4:32.31.65E5 33F5:32.32.65E5 33F6:32.33.65E5 33F7:32.34.65E5 33F8:32.35.65E5 " ++
  "33F9:32.36.65E5 33FA:32.37.65E5 33FB:32.38.65E5 33FC:32.39.65E5 33FD:33.30.65E5 " ++
  "33FE:33.31.65E5 33FF:67.61.6C F900-F900>8C48 F901-F901>66F4 F902-F902>8ECA F903-F903>8CC8 " ++
  "F904-F904>6ED1 F905-F905>4E32 F906-F906>53E5 F907-F907>9F9C F908-F908>9F9C F909-F909>5951 " ++
  "F90A-F90A>91D1 F90B-F90B>5587 F90C-F90C>5948 F90D-F90D>61F6 F90E-F90E>7669 F90F-F90F>7F85 " ++
  "F910-F910>863F F911-F911>87BA F912-F912>88F8 F913-F913>908F F914-F914>6A02 F915-F915>6D1B " ++
  "F916-F916>70D9 F917-F917>73DE F918-F918>843D F919-F919>916A F91A-F91A>99F1 F91B-F91B>4E82 " ++
  "F91C-F91C>5375 F91D-F91D>6B04 F91E-F91E>721B F91F-F91F>862D F920-F920>9E1E F921-F921>5D50 " ++
  "F922-F922>6FEB F923-F923>85CD F924-F924>8964 F925-F925>62C9 F926-F926>81D8 F927-F927>881F " ++
  "F928-F928>5ECA F929-F929>6717 F92A-F92A>6D6A F92B-F92B>72FC F92C-F92C>90CE F92D-F92D>4F86 " ++
  "F92E-F92E>51B7 F92F-F92F>52DE F930-F930>64C4 F931-F931>6AD3 F932-F932>7210 F933-F933>76E7 " ++
  "F934-F934>8001 F935-F935>8606 F936-F936>865C F937-F937>8DEF F938-F938>9732 F939-F939>9B6F " ++
  "F93A-F93A>9DFA F93B-F93B>788C F93C-F93C>797F F93D-F93D>7DA0 F93E-F93E>83C9 F93F-F93F>9304 " ++
  "F940-F940>9E7F F941-F941>8AD6 F942-F942>58DF F943-F943>5F04 F944-F944>7C60 F945-F945>807E " ++
  "F946-F946>7262 F947-F947>78CA F948-F948>8CC2 F949-F949>96F7 F94A-F94A>58D8 F94B-F94B>5C62 " ++
  "F94C-F94C>6A13 F94D-F94D>6DDA F94E-F94E>6F0F F94F-F94F>7D2F F950-F950>7E37 F951-F951>964B " ++
  "F952-F952>52D2 F953-F953>808B F954-F954>51DC F955-F955>51CC F956-F956>7A1C F957-F957>7DBE " ++
  "F958-F958>83F1 F959-F959>9675 F95A-F95A>8B80 F95B-F95B>62CF F95C-F95C>6A02 F95D-F95D>8AFE " ++
  "F95E-F95E>4E39 F95F-F95F>5BE7 F960-F960>6012 F961-F961>7387 F962-F962>7570 F963-F963>5317 " ++
  "F964-F964>78FB F965-F965>4FBF F966-F966>5FA9 F967-F967>4E0D F968-F968>6CCC F969-F969>6578 " ++
  "F96A-F96A>7D22 F96B-F96B>53C3 F96C-F96C>585E F96D-F96D>7701 F96E-F96E>8449 F96F-F96F>8AAA " ++
  "F970-F970>6BBA F971-F971>8FB0 F972-F972>6C88 F973-F973>62FE F974-F974>82E5 F975-F975>63A0 " ++
  "F976-F976>7565 F977-F977>4EAE F978-F978>5169 F979-F979>51C9 F97A-F97A>6881 F97B-F97B>7CE7 " ++
  "F97C-F97C>826F F97D-F97D>8AD2 F97E-F97E>91CF F97F-F97F>52F5 F980-F980>5442 F981-F981>5973 " ++
  "F982-F982>5EEC F983-F983>65C5 F984-F984>6FFE F985-F985>792A F986-F986>95AD F987-F987>9A6A " ++
  "F988-F988>9E97 F989-F989>9ECE F98A-F98A>529B F98B-F98B>66C6 F98C-F98C>6B77 F98D-F98D>8F62 " ++
  "F98E-F98E>5E74 F98F-F98F>6190 F990-F990>6200 F991-F991>649A F992-F992>6F23 F993-F993>7149 " ++
  "F994-F994>7489 F995-F995>79CA F996-F996>7DF4 F997-F997>806F F998-F998>8F26 F999-F999>84EE " ++
  "F99A-F99A>9023 F99B-F99B>934A F99C-F99C>5217 F99D-F99D>52A3 F99E-F99E>54BD F99F-F99F>70C8 " ++
  "F9A0-F9A0>88C2 F9A1-F9A1>8AAA F9A2-F9A2>5EC9 F9A3-F9A3>5FF5 F9A4-F9A4>637B F9A5-F9A5>6BAE " ++
  "F9A6-F9A6>7C3E F9A7-F9A7>7375 F9A8-F9A8>4EE4 F9A9-F9A9>56F9 F9AA-F9AA>5BE7 F9AB-F9AB>5DBA " ++
  "F9AC-F9AC>601C F9AD-F9AD>73B2 F9AE-F9AE>7469 F9AF-F9AF>7F9A F9B0-F9B0>8046 F9B1-F9B1>9234 " ++
  "F9B2-F9B2>96F6 F9B3-F9B3>9748 F9B4-F9B4>9818 F9B5-F9B5>4F8B F9B6-F9B6>79AE F9B7-F9B7>91B4 " ++
  "F9B8-F9B8>96B8 F9B9-F9B9>60E1 F9BA-F9BA>4E86 F9BB-F9BB>50DA F9BC-F9BC>5BEE F9BD-F9BD>5C3F " ++
  "F9BE-F9BE>6599 F9BF-F9BF>6A02 F9C0-F9C0>71CE F9C1-F9C1>7642 F9C2-F9C2>84FC F9C3-F9C3>907C " ++
  "F9C4-F9C4>9F8D F9C5-F9C5>6688 F9C6-F9C6>962E F9C7-F9C7>5289 F9C8-F9C8>677B F9C9-F9C9>67F3 " ++
  "F9CA-F9CA>6D41 F9CB-F9CB>6E9C F9CC-F9CC>7409 F9CD-F9CD>7559 F9CE-F9CE>786B F9CF-F9CF>7D10 " ++
  "F9D0-F9D0>985E F9D1-F9D1>516D F9D2-F9D2>622E F9D3-F9D3>9678 F9D4-F9D4>502B F9D5-F9D5>5D19 " ++
  "F9D6-F9D6>6DEA F9D7-F9D7>8F2A F9D8-F9D8>5F8B F9D9-F9D9>6144 F9DA-F9DA>6817 F9DB-F9DB>7387 " ++
  "F9DC-F9DC>9686 F9DD-F9DD>5229 F9DE-F9DE>540F F9DF-F9DF>5C65 F9E0-F9E0>6613 F9E1-F9E1>674E " ++
  "F9E2-F9E2>68A8 F9E3-F9E3>6CE5 F9E4-F9E4>7406 F9E5-F9E5>75E2 F9E6-F9E6>7F79 F9E7-F9E7>88CF " ++
  "F9E8-F9E8>88E1 F9E9-F9E9>91CC F9EA-F9EA>96E2 F9EB-F9EB>533F F9EC-F9EC>6EBA F9ED-F9ED>541D " ++
  "F9EE-F9EE>71D0 F9EF-F9EF>7498 F9F0-F9F0>85FA F9F1-F9F1>96A3 F9F2-F9F2>9C57 F9F3-F9F3>9E9F " ++
  "F9F4-F9F4>6797 F9F5-F9F5>6DCB F9F6-F9F6>81E8 F9F7-F9F7>7ACB F9F8-F9F8>7B20 F9F9-F9F9>7C92 " ++
  "F9FA-F9FA>72C0 F9FB-F9FB>7099 F9FC-F9FC>8B58 F9FD-F9FD>4EC0 F9FE-F9FE>8336 F9FF-F9FF>523A " ++
  "FA00-FA00>5207 FA01-FA01>5EA6 FA02-FA02>62D3 FA03-FA03>7CD6 FA04-FA04>5B85 FA05-FA05>6D1E " ++
  "FA06-FA06>66B4 FA07-FA07>8F3B FA08-FA08>884C FA09-FA09>964D FA0A-FA0A>898B FA0B-FA0B>5ED3 " ++
  "FA0C-FA0C>5140 FA0D-FA0D>55C0 FA10-FA10>585A FA12-FA12>6674 FA15-FA15>51DE FA16-FA16>732A " ++
  "FA17-FA17>76CA FA18-FA18>793C FA19-FA19>795E FA1A-FA1A>7965 FA1B-FA1B>798F FA1C-FA1C>9756 " ++
  "FA1D-FA1D>7CBE FA1E-FA1E>7FBD FA20-FA20>8612 FA22-FA22>8AF8 FA25-FA25>9038 FA26-FA26>90FD " ++
  "FA2A-FA2A>98EF FA2B-FA2B>98FC FA2C-FA2C>9928 FA2D-FA2D>9DB4 FA2E-FA2E>90DE FA2F-FA2F>96B7 " ++
  "FA30-FA30>4FAE FA31-FA31>50E7 FA32-FA32>514D FA33-FA33>52C9 FA34-FA34>52E4 FA35-FA35>5351 " ++
  "FA36-FA36>559D FA37-FA37>5606 FA38-FA38>5668 FA39-FA39>5840 FA3A-FA3A>58A8 FA3B-FA3B>5C64 " ++
  "FA3C-FA3C>5C6E FA3D-FA3D>6094 FA3E-FA3E>6168 FA3F-FA3F>618E FA40-FA40>61F2 FA41-FA41>654F " ++
  "FA42-FA42>65E2 FA43-FA43>6691 FA44-FA44>6885 FA45-FA45>6D77 FA46-FA46>6E1A FA47-FA47>6F22 " ++
  "FA48-FA48>716E FA49-FA49>722B FA4A-FA4A>7422 FA4B-FA4B>7891 FA4C-FA4C>793E FA4D-FA4D>7949 " ++
  "FA4E-FA4E>7948 FA4F-FA4F>7950 FA50-FA50>7956 FA51-FA51>795D FA52-FA53>798D FA54-FA54>7A40 " ++
  "FA55-FA55>7A81 FA56-FA56>7BC0 FA57-FA57>7DF4 FA58-FA58>7E09 FA59-FA59>7E41 FA5A-FA5A>7F72 " ++
  "FA5B-FA5B>8005 FA5C-FA5C>81ED FA5D-FA5D>8279 FA5E-FA5E>8279 FA5F-FA5F>8457 FA60-FA60>8910 " ++
  "FA61-FA61>8996 FA62-FA62>8B01 FA63-FA63>8B39 FA64-FA64>8CD3 FA65-FA65>8D08 FA66-FA66>8FB6 " ++
  "FA67-FA67>9038 FA68-FA68>96E3 FA69-FA69>97FF FA6A-FA6A>983B FA6B-FA6B>6075 FA6C-FA6C>242EE " ++
  "FA6D-FA6D>8218 FA70-FA70>4E26 FA71-FA71>51B5 FA72-FA72>5168 FA73-FA73>4F80 FA74-FA74>5145 " ++
  "FA75-FA75>5180 FA76-FA76>52C7 FA77-FA77>52FA FA78-FA78>559D FA79-FA79>5555 FA7A-FA7A>5599 " ++
  "FA7B-FA7B>55E2 FA7C-FA7C>585A FA7D-FA7D>58B3 FA7E-FA7E>5944 FA7F-FA7F>5954 FA80-FA80>5A62 " ++
  "FA81-FA81>5B28 FA82-FA82>5ED2 FA83-FA83>5ED9 FA84-FA84>5F69 FA85-FA85>5FAD FA86-FA86>60D8 " ++
  "FA87-FA87>614E FA88-FA88>6108 FA89-FA89>618E FA8A-FA8A>6160 FA8B-FA8B>61F2 FA8C-FA8C>6234 " ++
  "FA8D-FA8D>63C4 FA8E-FA8E>641C FA8F-FA8F>6452 FA90-FA90>6556 FA91-FA91>6674 FA92-FA92>6717 " ++
  "FA93-FA93>671B FA94-FA94>6756 FA95-FA95>6B79 FA96-FA96>6BBA FA97-FA97>6D41 FA98-FA98>6EDB " ++
  "FA99-FA99>6ECB FA9A-FA9A>6F22 FA9B-FA9B>701E FA9C-FA9C>716E FA9D-FA9D>77A7 FA9E-FA9E>7235 " ++
  "FA9F-FA9F>72AF FAA0-FAA0>732A FAA1-FAA1>7471 FAA2-FAA2>7506 FAA3-FAA3>753B FAA4-FAA4>761D " ++
  "FAA5-FAA5>761F FAA6-FAA6>76CA FAA7-FAA7>76DB FAA8-FAA8>76F4 FAA9-FAA9>774A FAAA-FAAA>7740 " ++
  "FAAB-FAAB>78CC FAAC-FAAC>7AB1 FAAD-FAAD>7BC0 FAAE-FAAE>7C7B FAAF-FAAF>7D5B FAB0-FAB0>7DF4 " ++
  "FAB1-FAB1>7F3E FAB2-FAB2>8005 FAB3-FAB3>8352 FAB4-FAB4>83EF FAB5-FAB5>8779 FAB6-FAB6>8941 " ++
  "FAB7-FAB7>8986 FAB8-FAB8>8996 FAB9-FAB9>8ABF FABA-FABA>8AF8 FABB-FABB>8ACB FABC-FABC>8B01 " ++
  "FABD-FABD>8AFE FABE-FABE>8AED FABF-FABF>8B39 FAC0-FAC0>8B8A FAC1-FAC1>8D08 FAC2-FAC2>8F38 " ++
  "FAC3-FAC3>9072 FAC4-FAC4>9199 FAC5-FAC5>9276 FAC6-FAC6>967C FAC7-FAC7>96E3 FAC8-FAC8>9756 " ++
  "FAC9-FAC9>97DB FACA-FACA>97FF FACB-FACB>980B FACC-FACC>983B FACD-FACD>9B12 FACE-FACE>9F9C " ++
  "FACF-FACF>2284A FAD0-FAD0>22844 FAD1-FAD1>233D5 FAD2-FAD2>3B9D FAD3-FAD3>4018 " ++
  "FAD4-FAD4>4039 FAD5-FAD5>25249 FAD6-FAD6>25CD0 FAD7-FAD7>27ED3 FAD8-FAD8>9F43 " ++
  "FAD9-FAD9>9F8E FB00:66.66 FB01:66.69 FB02:66.6C FB03:66.66.69 FB04:66.66.6C FB05:73.74 " ++
  "FB06:73.74 FB13:574.576 FB14:574.565 FB15:574.56B FB16:57E.576 FB17:574.56D FB1D:5D9.5B4 " ++
  "FB1F:5F2.5B7 FB20-FB20>5E2 FB21-FB21>5D0 FB22-FB23>5D3 FB24-FB26>5DB FB27-FB27>5E8 " ++
  "FB28-FB28>5EA FB29-FB29>2B FB2A:5E9.5C1 FB2B:5E9.5C2 FB2C:5E9.5BC.5C1 FB2D:5E9.5BC.5C2 " ++
  "FB2E:5D0.5B7 FB2F:5D0.5B8 FB30:5D0.5BC FB31:5D1.5BC FB32:5D2.5BC FB33:5D3.5BC FB34:5D4.5BC " ++
  "FB35:5D5.5BC FB36:5D6.5BC FB38:5D8.5BC FB39:5D9.5BC FB3A:5DA.5BC FB3B:5DB.5BC FB3C:5DC.5BC " ++
  "FB3E:5DE.5BC FB40:5E0.5BC FB41:5E1.5BC FB43:5E3.5BC FB44:5E4.5BC FB46:5E6.5BC FB47:5E7.5BC " ++
  "FB48:5E8.5BC FB49:5E9.5BC FB4A:5EA.5BC FB4B:5D5.5B9 FB4C:5D1.5BF FB4D:5DB.5BF FB4E:5E4.5BF " ++
  "FB4F:5D0.5DC FB50-FB50>671 FB51-FB51>671 FB52-FB52>67B FB53-FB53>67B FB54-FB54>67B " ++
  "FB55-FB55>67B FB56-FB56>67E FB57-FB57>67E FB58-FB58>67E FB59-FB59>67E FB5A-FB5A>680 " ++
  "FB5B-FB5B>680 FB5C-FB5C>680 FB5D-FB5D>680 FB5E-FB5E>67A FB5F-FB5F>67A FB60-FB60>67A " ++
  "FB61-FB61>67A FB62-FB62>67F FB63-FB63>67F FB64-FB64>67F FB65-FB65>67F FB66-FB66>679 " ++
  "FB67-FB67>679 FB68-FB68>679 FB69-FB69>679 FB6A-FB6A>6A4 FB6B-FB6B>6A4 FB6C-FB6C>6A4 " ++
  "FB6D-FB6D>6A4 FB6E-FB6E>6A6 FB6F-FB6F>6A6 FB70-FB70>6A6 FB71-FB71>6A6 FB72-FB72>684 " ++
  "FB73-FB73>684 FB74-FB74>684 FB75-FB75>684 FB76-FB76>683 FB77-FB77>683 FB78-FB78>683 " ++
  "FB79-FB79>683 FB7A-FB7A>686 FB7B-FB7B>686 FB7C-FB7C>686 FB7D-FB7E>686 FB7F-FB7F>687 " ++
  "FB80-FB80>687 FB81-FB81>687 FB82-FB82>68D FB83-FB83>68D FB84-FB84>68C FB85-FB85>68C " ++
  "FB86-FB86>68E FB87-FB87>68E FB88-FB88>688 FB89-FB89>688 FB8A-FB8A>698 FB8B-FB8B>698 " ++
  "FB8C-FB8C>691 FB8D-FB8D>691 FB8E-FB8E>6A9 FB8F-FB8F>6A9 FB90-FB90>6A9 FB91-FB91>6A9 " ++
  "FB92-FB92>6AF FB93-FB93>6AF FB94-FB94>6AF FB95-FB95>6AF FB96-FB96>6B3 FB97-FB97>6B3 " ++
  "FB98-FB98>6B3 FB99-FB99>6B3 FB9A-FB9A>6B1 FB9B-FB9B>6B1 FB9C-FB9C>6B1 FB9D-FB9D>6B1 " ++
  "FB9E-FB9E>6BA FB9F-FBA0>6BA FBA1-FBA1>6BB FBA2-FBA2>6BB FBA3-FBA3>6BB FBA4-FBA4>6C0 " ++
  "FBA5-FBA6>6C0 FBA7-FBA7>6C1 FBA8-FBA8>6C1 FBA9-FBA9>6C1 FBAA-FBAA>6BE FBAB-FBAB>6BE " ++
  "FBAC-FBAC>6BE FBAD-FBAD>6BE FBAE-FBAE>6D2 FBAF-FBB0>6D2 FBB1-FBB1>6D3 FBD3-FBD3>6AD " ++
  "FBD4-FBD4>6AD FBD5-FBD5>6AD FBD6-FBD6>6AD FBD7-FBD7>6C7 FBD8-FBD8>6C7 FBD9-FBD9>6C6 " ++
  "FBDA-FBDA>6C6 FBDB-FBDB>6C8 FBDC-FBDC>6C8 FBDD:6C7.674 FBDE-FBDE>6CB FBDF-FBDF>6CB " ++
  "FBE0-FBE0>6C5 FBE1-FBE1>6C5 FBE2-FBE2>6C9 FBE3-FBE3>6C9 FBE4-FBE4>6D0 FBE5-FBE5>6D0 " ++
  "FBE6-FBE6>6D0 FBE7-FBE7>6D0 FBE8-FBE8>649 FBE9-FBE9>649 FBEA:626.627 FBEB:626.627 " ++
  "FBEC:626.6D5 FBED:626.6D5 FBEE:626.648 FBEF:626.648 FBF0:626.6C7 FBF1:626.6C7 FBF2:626.6C6 " ++
  "FBF3:626.6C6 FBF4:626.6C8 FBF5:626.6C8 FBF6:626.6D0 FBF7:626.6D0 FBF8:626.6D0 FBF9:626.649 " ++
  "FBFA:626.649 FBFB:626.649 FBFC-FBFC>6CC FBFD-FBFD>6CC FBFE-FBFE>6CC FBFF-FBFF>6CC " ++
  "FC00:626.62C FC01:626.62D FC02:626.645 FC03:626.649 FC04:626.64A FC05:628.62C FC06:628.62D " ++
  "FC07:628.62E FC08:628.645 FC09:628.649 FC0A:628.64A FC0B:62A.62C FC0C:62A.62D FC0D:62A.62E " ++
  "FC0E:62A.645 FC0F:62A.649 FC10:62A.64A FC11:62B.62C FC12:62B.645 FC13:62B.649 FC14:62B.64A " ++
  "FC15:62C.62D FC16:62C.645 FC17:62D.62C FC18:62D.645 FC19:62E.62C FC1A:62E.62D FC1B:62E.645 " ++
  "FC1C:633.62C FC1D:633.62D FC1E:633.62E FC1F:633.645 FC20:635.62D FC21:635.645 FC22:636.62C " ++
  "FC23:636.62D FC24:636.62E FC25:636.645 FC26:637.62D FC27:637.645 FC28:638.645 FC29:639.62C " ++
  "FC2A:639.645 FC2B:63A.62C FC2C:63A.645 FC2D:641.62C FC2E:641.62D FC2F:641.62E FC30:641.645 " ++
  "FC31:641.649 FC32:641.64A FC33:642.62D FC34:642.645 FC35:642.649 FC36:642.64A FC37:643.627 " ++
  "FC38:643.62C FC39:643.62D FC3A:643.62E FC3B:643.644 FC3C:643.645 FC3D:643.649 FC3E:643.64A " ++
  "FC3F:644.62C FC40:644.62D FC41:644.62E FC42:644.645 FC43:644.649 FC44:644.64A FC45:645.62C " ++
  "FC46:645.62D FC47:645.62E FC48:645.645 FC49:645.649 FC4A:645.64A FC4B:646.62C FC4C:646.62D " ++
  "FC4D:646.62E FC4E:646.645 FC4F:646.649 FC50:646.64A FC51:647.62C FC52:647.645 FC53:647.649 " ++
  "FC54:647.64A FC55:64A.62C FC56:64A.62D FC57:64A.62E FC58:64A.645 FC59:64A.649 FC5A:64A.64A " ++
  "FC5B:630.670 FC5C:631.670 FC5D:649.670 FC5E:20.64C.651 FC5F:20.64D.651 FC60:20.64E.651 " ++
  "FC61:20.64F.651 FC62:20.650.651 FC63:20.651.670 FC64:626.631 FC65:626.632 FC66:626.645 " ++
  "FC67:626.646 FC68:626.649 FC69:626.64A FC6A:628.631 FC6B:628.632 FC6C:628.645 FC6D:628.646 " ++
  "FC6E:628.649 FC6F:628.64A FC70:62A.631 FC71:62A.632 FC72:62A.645 FC73:62A.646 FC74:62A.649 " ++
  "FC75:62A.64A FC76:62B.631 FC77:62B.632 FC78:62B.645 FC79:62B.646 FC7A:62B.649 FC7B:62B.64A " ++
  "FC7C:641.649 FC7D:641.64A FC7E:642.649 FC7F:642.64A FC80:643.627 FC81:643.644 FC82:643.645 " ++
  "FC83:643.649 FC84:643.64A FC85:644.645 FC86:644.649 FC87:644.64A FC88:645.627 FC89:645.645 " ++
  "FC8A:646.631 FC8B:646.632 FC8C:646.645 FC8D:646.646 FC8E:646.649 FC8F:646.64A FC90:649.670 " ++
  "FC91:64A.631 FC92:64A.632 FC93:64A.645 FC94:64A.646 FC95:64A.649 FC96:64A.64A FC97:626.62C " ++
  "FC98:626.62D FC99:626.62E FC9A:626.645 FC9B:626.647 FC9C:628.62C FC9D:628.62D FC9E:628.62E " ++
  "FC9F:628.645 FCA0:628.647 FCA1:62A.62C FCA2:62A.62D FCA3:62A.62E FCA4:62A.645 FCA5:62A.647 " ++
  "FCA6:62B.645 FCA7:62C.62D FCA8:62C.645 FCA9:62D.62C FCAA:62D.645 FCAB:62E.62C FCAC:62E.645 " ++
  "FCAD:633.62C FCAE:633.62D FCAF:633.62E FCB0:633.645 FCB1:635.62D FCB2:635.62E FCB3:635.645 " ++
  "FCB4:636.62C FCB5:636.62D FCB6:636.62E FCB7:636.645 FCB8:637.62D FCB9:638.645 FCBA:639.62C " ++
  "FCBB:639.645 FCBC:63A.62C FCBD:63A.645 FCBE:641.62C FCBF:641.62D FCC0:641.62E FCC1:641.645 " ++
  "FCC2:642.62D FCC3:642.645 FCC4:643.62C FCC5:643.62D FCC6:643.62E FCC7:643.644 FCC8:643.645 " ++
  "FCC9:644.62C FCCA:644.62D FCCB:644.62E FCCC:644.645 FCCD:644.647 FCCE:645.62C FCCF:645.62D " ++
  "FCD0:645.62E FCD1:645.645 FCD2:646.62C FCD3:646.62D FCD4:646.62E FCD5:646.645 FCD6:646.647 " ++
  "FCD7:647.62C FCD8:647.645 FCD9:647.670 FCDA:64A.62C FCDB:64A.62D FCDC:64A.62E FCDD:64A.645 " ++
  "FCDE:64A.647 FCDF:626.645 FCE0:626.647 FCE1:628.645 FCE2:628.647 FCE3:62A.645 FCE4:62A.647 " ++
  "FCE5:62B.645 FCE6:62B.647 FCE7:633.645 FCE8:633.647 FCE9:634.645 FCEA:634.647 FCEB:643.644 " ++
  "FCEC:643.645 FCED:644.645 FCEE:646.645 FCEF:646.647 FCF0:64A.645 FCF1:64A.647 " ++
  "FCF2:640.64E.651 FCF3:640.64F.651 FCF4:640.650.651 FCF5:637.649 FCF6:637.64A FCF7:639.649 " ++
  "FCF8:639.64A FCF9:63A.649 FCFA:63A.64A FCFB:633.649 FCFC:633.64A FCFD:634.649 FCFE:634.64A " ++
  "FCFF:62D.649 FD00:62D.64A FD01:62C.649 FD02:62C.64A FD03:62E.649 FD04:62E.64A FD05:635.649 " ++
  "FD06:635.64A FD07:636.649 FD08:636.64A FD09:634.62C FD0A:634.62D FD0B:634.62E FD0C:634.645 " ++
  "FD0D:634.631 FD0E:633.631 FD0F:635.631 FD10:636.631 FD11:637.649 FD12:637.64A FD13:639.649 " ++
  "FD14:639.64A FD15:63A.649 FD16:63A.64A FD17:633.649 FD18:633.64A FD19:634.649 FD1A:634.64A " ++
  "FD1B:62D.649 FD1C:62D.64A FD1D:62C.649 FD1E:62C.64A FD1F:62E.649 FD20:62E.64A FD21:635.649 " ++
  "FD22:635.64A FD23:636.649 FD24:636.64A FD25:634.62C FD26:634.62D FD27:634.62E FD28:634.645 " ++
  "FD29:634.631 FD2A:633.631 FD2B:635.631 FD2C:636.631 FD2D:634.62C FD2E:634.62D FD2F:634.62E " ++
  "FD30:634.645 FD31:633.647 FD32:634.647 FD33:637.645 FD34:633.62C FD35:633.62D FD36:633.62E " ++
  "FD37:634.62C FD38:634.62D FD39:634.62E FD3A:637.645 FD3B:638.645 FD3C:627.64B FD3D:627.64B " ++
  "FD50:62A.62C.645 FD51:62A.62D.62C FD52:62A.62D.62C FD53:62A.62D.645 FD54:62A.62E.645 " ++
  "FD55:62A.645.62C FD56:62A.645.62D FD57:62A.645.62E FD58:62C.645.62D FD59:62C.645.62D " ++
  "FD5A:62D.645.64A FD5B:62D.645.649 FD5C:633.62D.62C FD5D:633.62C.62D FD5E:633.62C.649 " ++
  "FD5F:633.645.62D FD60:633.645.62D FD61:633.645.62C FD62:633.645.645 FD63:633.645.645 " ++
  "FD64:635.62D.62D FD65:635.62D.62D FD66:635.645.645 FD67:634.62D.645 FD68:634.62D.645 " ++
  "FD69:634.62C.64A FD6A:634.645.62E FD6B:634.645.62E FD6C:634.645.645 FD6D:634.645.645 " ++
  "FD6E:636.62D.649 FD6F:636.62E.645 FD70:636.62E.645 FD71:637.645.62D FD72:637.645.62D " ++
  "FD73:637.645.645 FD74:637.645.64A FD75:639.62C.645 FD76:639.645.645 FD77:639.645.645 " ++
  "FD78:639.645.649 FD79:63A.645.645 FD7A:63A.645.64A FD7B:63A.645.649 FD7C:641.62E.645 " ++
  "FD7D:641.62E.645 FD7E:642.645.62D FD7F:642.645.645 FD80:644.62D.645 FD81:644.62D.64A " ++
  "FD82:644.62D.649 FD83:644.62C.62C FD84:644.62C.62C FD85:644.62E.645 FD86:644.62E.645 " ++
  "FD87:644.645.62D FD88:644.645.62D FD89:645.62D.62C FD8A:645.62D.645 FD8B:645.62D.64A " ++
  "FD8C:645.62C.62D FD8D:645.62C.645 FD8E:645.62E.62C FD8F:645.62E.645 FD92:645.62C.62E " ++
  "FD93:647.645.62C FD94:647.645.645 FD95:646.62D.645 FD96:646.62D.649 FD97:646.62C.645 " ++
  "FD98:646.62C.645 FD99:646.62C.649 FD9A:646.645.64A FD9B:646.645.649 FD9C:64A.645.645 " ++
  "FD9D:64A.645.645 FD9E:628.62E.64A FD9F:62A.62C.64A FDA0:62A.62C.649 FDA1:62A.62E.64A " ++
  "FDA2:62A.62E.649 FDA3:62A.645.64A FDA4:62A.645.649 FDA5:62C.645.64A FDA6:62C.62D.649 " ++
  "FDA7:62C.645.649 FDA8:633.62E.649 FDA9:635.62D.64A FDAA:634.62D.64A FDAB:636.62D.64A " ++
  "FDAC:644.62C.64A FDAD:644.645.64A FDAE:64A.62D.64A FDAF:64A.62C.64A FDB0:64A.645.64A " ++
  "FDB1:645.645.64A FDB2:642.645.64A FDB3:646.62D.64A FDB4:642.645.62D FDB5:644.62D.645 " ++
  "FDB6:639.645.64A FDB7:643.645.64A FDB8:646.62C.62D FDB9:645.62E.64A FDBA:644.62C.645 " ++
  "FDBB:643.645.645 FDBC:644.62C.645 FDBD:646.62C.62D FDBE:62C.62D.64A FDBF:62D.62C.64A " ++
  "FDC0:645.62C.64A FDC1:641.645.64A FDC2:628.62D.64A FDC3:643.645.645 FDC4:639.62C.645 " ++
  "FDC5:635.645.645 FDC6:633.62E.64A FDC7:646.62C.64A FDF0:635.644.6D2 FDF1:642.644.6D2 " ++
  "FDF2:627.644.644.647 FDF3:627.643.628.631 FDF4:645.62D.645.62F FDF5:635.644.639.645 " ++
  "FDF6:631.633.648.644 FDF7:639.644.64A.647 FDF8:648.633.644.645 FDF9:635.644.649 " ++
  "FDFA:635.644.649.20.627.644.644.647.20.639.644.64A.647.20.648.633.644.645 " ++
  "FDFB:62C.644.20.62C.644.627.644.647 FDFC:631.6CC.627.644 FE00! FE01! FE02! FE03! FE04! " ++
  "FE05! FE06! FE07! FE08! FE09! FE0A! FE0B! FE0C! FE0D! FE0E! FE0F! FE10-FE10>2C " ++
  "FE11-FE12>3001 FE13-FE14>3A FE15-FE15>21 FE16-FE16>3F FE17-FE18>3016 FE19:2E.2E.2E " ++
  "FE30:2E.2E FE31-FE31>2014 FE32-FE32>2013 FE33-FE33>5F FE34-FE34>5F FE35-FE36>28 " ++
  "FE37-FE37>7B FE38-FE38>7D FE39-FE3A>3014 FE3B-FE3C>3010 FE3D-FE3E>300A FE3F-FE40>3008 " ++
  "FE41-FE44>300C FE47-FE47>5B FE48-FE48>5D FE49:20.305 FE4A:20.305 FE4B:20.305 FE4C:20.305 " ++
  "FE4D-FE4D>5F FE4E-FE4E>5F FE4F-FE4F>5F FE50-FE50>2C FE51-FE51>3001 FE52-FE52>2E " ++
  "FE54-FE54>3B FE55-FE55>3A FE56-FE56>3F FE57-FE57>21 FE58-FE58>2014 FE59-FE5A>28 " ++
  "FE5B-FE5B>7B FE5C-FE5C>7D FE5D-FE5E>3014 FE5F-FE5F>23 FE60-FE60>26 FE61-FE62>2A " ++
  "FE63-FE63>2D FE64-FE64>3C FE65-FE65>3E FE66-FE66>3D FE68-FE68>5C FE69-FE6A>24 FE6B-FE6B>40 " ++
  "FE70:20.64B FE71:640.64B FE72:20.64C FE74:20.64D FE76:20.64E FE77:640.64E FE78:20.64F " ++
  "FE79:640.64F FE7A:20.650 FE7B:640.650 FE7C:20.651 FE7D:640.651 FE7E:20.652 FE7F:640.652 " ++
  "FE80-FE81>621 FE82-FE83>622 FE84-FE85>623 FE86-FE87>624 FE88-FE89>625 FE8A-FE8A>626 " ++
  "FE8B-FE8B>626 FE8C-FE8D>626 FE8E-FE8F>627 FE90-FE90>628 FE91-FE91>628 FE92-FE93>628 " ++
  "FE94-FE95>629 FE96-FE96>62A FE97-FE97>62A FE98-FE99>62A FE9A-FE9A>62B FE9B-FE9B>62B " ++
  "FE9C-FE9D>62B FE9E-FE9E>62C FE9F-FE9F>62C FEA0-FEA1>62C FEA2-FEA2>62D FEA3-FEA3>62D " ++
  "FEA4-FEA5>62D FEA6-FEA6>62E FEA7-FEA7>62E FEA8-FEA9>62E FEAA-FEAB>62F FEAC-FEAD>630 " ++
  "FEAE-FEAF>631 FEB0-FEB1>632 FEB2-FEB2>633 FEB3-FEB3>633 FEB4-FEB5>633 FEB6-FEB6>634 " ++
  "FEB7-FEB7>634 FEB8-FEB9>634 FEBA-FEBA>635 FEBB-FEBB>635 FEBC-FEBD>635 FEBE-FEBE>636 " ++
  "FEBF-FEBF>636 FEC0-FEC1>636 FEC2-FEC2>637 FEC3-FEC3>637 FEC4-FEC5>637 FEC6-FEC6>638 " ++
  "FEC7-FEC7>638 FEC8-FEC9>638 FECA-FECA>639 FECB-FECB>639 FECC-FECD>639 FECE-FECE>63A " ++
  "FECF-FECF>63A FED0-FED0>63A FED1-FED1>641 FED2-FED2>641 FED3-FED3>641 FED4-FED5>641 " ++
  "FED6-FED6>642 FED7-FED7>642 FED8-FED9>642 FEDA-FEDA>643 FEDB-FEDB>643 FEDC-FEDD>643 " ++
  "FEDE-FEDE>644 FEDF-FEDF>644 FEE0-FEE1>644 FEE2-FEE2>645 FEE3-FEE3>645 FEE4-FEE5>645 " ++
  "FEE6-FEE6>646 FEE7-FEE7>646 FEE8-FEE9>646 FEEA-FEEA>647 FEEB-FEEB>647 FEEC-FEED>647 " ++
  "FEEE-FEEF>648 FEF0-FEF1>649 FEF2-FEF2>64A FEF3-FEF3>64A FEF4-FEF4>64A FEF5:644.622 " ++
  "FEF6:644.622 FEF7:644.623 FEF8:644.623 FEF9:644.625 FEFA:644.625 FEFB:644.627 FEFC:644.627 " ++
  "FEFF! FF01-FF20>21 FF21-FF3A>61 FF3B-FF5E>5B FF5F-FF60>2985 FF61-FF61>3002 FF62-FF63>300C " ++
  "FF64-FF64>3001 FF65-FF65>30FB FF66-FF66>30F2 FF67-FF67>30A1 FF68-FF68>30A3 FF69-FF69>30A5 " ++
  "FF6A-FF6A>30A7 FF6B-FF6B>30A9 FF6C-FF6C>30E3 FF6D-FF6D>30E5 FF6E-FF6E>30E7 FF6F-FF6F>30C3 " ++
  "FF70-FF70>30FC FF71-FF71>30A2 FF72-FF72>30A4 FF73-FF73>30A6 FF74-FF74>30A8 FF75-FF76>30AA " ++
  "FF77-FF77>30AD FF78-FF78>30AF FF79-FF79>30B1 FF7A-FF7A>30B3 FF7B-FF7B>30B5 FF7C-FF7C>30B7 " ++
  "FF7D-FF7D>30B9 FF7E-FF7E>30BB FF7F-FF7F>30BD FF80-FF80>30BF FF81-FF81>30C1 FF82-FF82>30C4 " ++
  "FF83-FF83>30C6 FF84-FF84>30C8 FF85-FF8A>30CA FF8B-FF8B>30D2 FF8C-FF8C>30D5 FF8D-FF8D>30D8 " ++
  "FF8E-FF8E>30DB FF8F-FF93>30DE FF94-FF94>30E4 FF95-FF95>30E6 FF96-FF9B>30E8 FF9C-FF9C>30EF " ++
  "FF9D-FF9D>30F3 FF9E-FF9F>3099 FFA0! FFA1-FFA2>1100 FFA3-FFA3>11AA FFA4-FFA4>1102 " ++
  "FFA5-FFA6>11AC FFA7-FFA9>1103 FFAA-FFAF>11B0 FFB0-FFB0>111A FFB1-FFB3>1106 FFB4-FFB4>1121 " ++
  "FFB5-FFBE>1109 FFC2-FFC7>1161 FFCA-FFCF>1167 FFD2-FFD7>116D FFDA-FFDC>1173 FFE0-FFE1>A2 " ++
  "FFE2-FFE2>AC FFE3:20.304 FFE4-FFE4>A6 FFE5-FFE5>A5 FFE6-FFE6>20A9 FFE8-FFE8>2502 " ++
  "FFE9-FFEC>2190 FFED-FFED>25A0 FFEE-FFEE>25CB "

/-- One entry of the mapping table. -/
structure MapEntry where
  first : Nat
  last : Nat
  /-- For a range, the image of `first`; the rest follow in order. -/
  target : Nat
  /-- For a single character, the characters it maps to; empty when it maps to nothing. -/
  image : Option (List Nat)

/-- The value of a hexadecimal numeral. -/
def hexValue (cs : List Char) : Nat :=
  cs.foldl (fun n c => 16 * n + (hexDigitValue c).getD 0) 0

/-- Read one entry of the table text. -/
def parseEntry (cs : List Char) : Option MapEntry :=
  match splitOn '>' cs with
  | [range, target] =>
    match splitOn '-' range with
    | [a, b] => some ⟨hexValue a, hexValue b, hexValue target, none⟩
    | _ => none
  | _ =>
    match splitOn ':' cs with
    | [a, targets] =>
      let n := hexValue a
      some ⟨n, n, 0, some ((splitOn '.' targets).map hexValue)⟩
    | _ =>
      match cs.reverse with
      | '!' :: a => let n := hexValue a.reverse; some ⟨n, n, 0, some []⟩
      | _ => none

/-- The mapping table, sorted by code point. -/
def mappingTable : Array MapEntry :=
  ((splitOn ' ' mappingText.toList).filterMap parseEntry).toArray

/-- Binary search for the entry containing `n` between `lo` and `hi`. -/
def findEntry (table : Array MapEntry) (n : Nat) (lo hi : Nat) : Option MapEntry :=
  if h : lo < hi then
    let mid := (lo + hi) / 2
    match table[mid]? with
    | none => none
    | some e =>
      if n < e.first then findEntry table n lo mid
      else if e.last < n then findEntry table n (mid + 1) hi
      else some e
  else none
termination_by hi - lo

/-- **The mapping of one character**: `none` when it maps to itself. -/
def mapChar (c : Char) : Option (List Char) :=
  let n := c.toNat
  if n < 0x80 then
    if 0x41 ≤ n ∧ n ≤ 0x5A then some [Char.ofNat (n + 32)] else none
  else if n = 0x3002 then some ['.']
  else
    match findEntry mappingTable n 0 mappingTable.size with
    | none => none
    | some e =>
      let image := match e.image with
        | some cps => cps.map Char.ofNat
        | none => [Char.ofNat (e.target + (n - e.first))]
      some (image.map fun d => if d.toNat = 0x3002 then '.' else d)

/-- The mapped form of a name. -/
def mapName (cs : List Char) : List Char :=
  cs.flatMap fun c => (mapChar c).getD [c]

/-- Whether an ASCII character is forbidden in a host. -/
def forbiddenAscii (c : Char) : Bool :=
  c.toNat ≤ 0x20 || c.toNat = 0x7F || "%#/:<>?@[\\]^|".toList.contains c

/-- Whether a character may not appear in a mapped name. -/
def disallowed (c : Char) : Bool :=
  if c.toNat < 0x80 then forbiddenAscii c else !Unicode.isPrintable c

/-- Whether a character is valid as it stands in a label, as decoded punycode must be. -/
def validInLabel (c : Char) : Bool := !disallowed c && (mapChar c).isNone

/-- Whether a label starts with `xn--`. -/
def isPunycodeLabel (label : List Char) : Bool := label.take 4 == ['x', 'n', '-', '-']

/-- **The ASCII form of one mapped label**, or `none` when it is invalid. -/
def labelToAscii (label : List Char) : Option (List Char) :=
  if isPunycodeLabel label then
    match Punycode.decode (label.drop 4) with
    | some decoded =>
      if decoded.isEmpty || decoded.all (·.toNat < 0x80) || !decoded.all validInLabel then none
      else if (decoded.head?.map Unicode.isGraphemeExtend).getD false then none
      else some label
    | none => none
  else if label.all (·.toNat < 0x80) then some label
  else if (label.head?.map Unicode.isGraphemeExtend).getD false then none
  else some (['x', 'n', '-', '-'] ++ Punycode.encode label)

/-- **The ASCII form of a domain name**, or `none` when it is refused. -/
def toAscii (name : List Char) : Option (List Char) :=
  let mapped := mapName name
  if mapped.any disallowed then none
  else
    match (splitOn '.' mapped).mapM labelToAscii with
    | some labels => some (List.intercalate ['.'] labels)
    | none => none

end StompConsole.Url.Idna
