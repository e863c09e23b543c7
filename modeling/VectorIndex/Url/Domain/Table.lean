import VectorIndex.Text.CodePoints

/-!
# Spellings of characters in domain names

Domain names do not tell letters of different case, width or style apart: `spellings` says
how other characters than those of ASCII are spelled.  Some characters are left out, and
a few that show on a page are refused.
-/

set_option autoImplicit false

namespace VectorIndex.Domain

open Text (CodePoints CharMap)

/-- How characters are spelled that have a spelling other than themselves. -/
def spellings : CharMap := .ofText "
  A8>20.308 AA>61 AF>20.304 B2-B3>32 B4>20.301 B5>3BC B8>20.327 B9:31.6F BC>31.2044.34
  BD>31.2044.32 BE>33.2044.34 C0-D6>E0 D8-DE>F8 100-12E+2>101 130>69.307 132>69.6A 133>69.6A
  134-136+2>135 139-13D+2>13A 13F>6C.B7 140>6C.B7 141-147+2>142 149>2BC.6E 14A-176+2>14B 178>FF
  179-17D+2>17A 17F>73 181>253 182-184+2>183 186:254.188 189-18A>256 18B>18C 18E:1DD.259.25B.192
  193:260.263 196:269.268.199 19C:26F.272 19F>275 1A0-1A4+2>1A1 1A6:280.1A8 1A9>283 1AC>1AD
  1AE:288.1B0 1B1-1B2>28A 1B3-1B5+2>1B4 1B7:292.1B9 1BC>1BD 1C4>64.17E 1C5>64.17E 1C6>64.17E
  1C7>6C.6A 1C8>6C.6A 1C9>6C.6A 1CA>6E.6A 1CB>6E.6A 1CC>6E.6A 1CD-1DB+2>1CE 1DE-1EE+2>1DF
  1F1>64.7A 1F2>64.7A 1F3>64.7A 1F4>1F5 1F6:195.1BF 1F8-21E+2>1F9 220>19E 222-232+2>223
  23A:2C65.23C 23D:19A.2C66 241>242 243:180.289.28C 246-24E+2>247 2B0-2B2+2>68 2B1>266
  2B3:72.279.27B.281.77.79 2D8>20.306 2D9>20.307 2DA>20.30A 2DB>20.328 2DC>20.303 2DD>20.30B
  2E0:263.6C.73.78.295 345>3B9 370-372+2>371 376>377 37A>20.3B9 37F>3F3 384>20.301 385>20.308.301
  386>3AC 388-38A>3AD 38C>3CC 38E-38F>3CD 391-3A1>3B1 3A3-3AB>3C3
  3CF:3D7.3B2.3B8.3C5.3CD.3CB.3C6.3C0 3D8-3EE+2>3D9 3F0:3BA.3C1.3C3 3F4:3B8.3B5 3F7>3F8
  3F9:3C3.3FB 3FD-3FF>37B 400-40F>450 410-42F>430 460-480+2>461 48A-4BE+2>48B 4C0>4CF
  4C1-4CD+2>4C2 4D0-52E+2>4D1 531-556>561 587>565.582 675>627.674 676>648.674 677>6C7.674
  678>64A.674 E33>E4D.E32 EB3>ECD.EB2 EDC>EAB.E99 EDD>EAB.EA1 F0C>F0B F77>FB2.F71.F80
  F79>FB3.F71.F80 10A0-10C5>2D00 10C7>2D27 10CD>2D2D 10FC>10DC 13F8-13FD>13F0 1C80:432.434.43E
  1C83-1C84>441 1C85:442.44A.463.A64B.1C8A 1C90-1CBA>10D0 1CBD-1CBF>10FD 1D2C:61.E6
  1D2E-1D30+2>62 1D31-1D39+2>65 1D32>1DD 1D34-1D3A+2>68 1D3C:6F.223.70.72 1D40-1D41>74 1D42:77.61
  1D44-1D45>250 1D46:1D02.62 1D48-1D49>64 1D4A>259 1D4B-1D4C>25B 1D4D>67 1D4F>6B 1D50-1D52+2>6D
  1D51>14B 1D53>254 1D54-1D55>1D16 1D56>70 1D57-1D58>74 1D59:1D1D.26F.76.1D25 1D5D-1D5F>3B2
  1D60-1D61>3C6 1D62:69.72 1D64-1D65>75 1D66-1D67>3B2 1D68>3C1 1D69-1D6A>3C6 1D78>43D
  1D9B:252.63.255.F0.25C.66.25F.261.265 1DA4-1DA6>268 1DA7:1D7B.29D.26D.1D85.29F.271.270
  1DAE-1DB1>272 1DB2>278 1DB3-1DB4>282 1DB5>1AB 1DB6-1DB7>289 1DB8>1D1C 1DB9-1DBA>28B 1DBB>7A
  1DBC-1DBE>290 1DBF>3B8 1E00-1E94+2>1E01 1E9A>61.2BE 1E9B>1E61 1E9E>DF 1EA0-1EFE+2>1EA1
  1F08-1F0F>1F00 1F18-1F1D>1F10 1F28-1F2F>1F20 1F38-1F3F>1F30 1F48-1F4D>1F40 1F59-1F5F+2>1F51
  1F68-1F6F>1F60 1F80>1F00.3B9 1F81>1F01.3B9 1F82>1F02.3B9 1F83>1F03.3B9 1F84>1F04.3B9
  1F85>1F05.3B9 1F86>1F06.3B9 1F87>1F07.3B9 1F88>1F00.3B9 1F89>1F01.3B9 1F8A>1F02.3B9
  1F8B>1F03.3B9 1F8C>1F04.3B9 1F8D>1F05.3B9 1F8E>1F06.3B9 1F8F>1F07.3B9 1F90>1F20.3B9
  1F91>1F21.3B9 1F92>1F22.3B9 1F93>1F23.3B9 1F94>1F24.3B9 1F95>1F25.3B9 1F96>1F26.3B9
  1F97>1F27.3B9 1F98>1F20.3B9 1F99>1F21.3B9 1F9A>1F22.3B9 1F9B>1F23.3B9 1F9C>1F24.3B9
  1F9D>1F25.3B9 1F9E>1F26.3B9 1F9F>1F27.3B9 1FA0>1F60.3B9 1FA1>1F61.3B9 1FA2>1F62.3B9
  1FA3>1F63.3B9 1FA4>1F64.3B9 1FA5>1F65.3B9 1FA6>1F66.3B9 1FA7>1F67.3B9 1FA8>1F60.3B9
  1FA9>1F61.3B9 1FAA>1F62.3B9 1FAB>1F63.3B9 1FAC>1F64.3B9 1FAD>1F65.3B9 1FAE>1F66.3B9
  1FAF>1F67.3B9 1FB2>1F70.3B9 1FB3>3B1.3B9 1FB4>3AC.3B9 1FB7>1FB6.3B9 1FB8-1FB9>1FB0
  1FBA:1F70.3AC 1FBC>3B1.3B9 1FBD>20.313 1FBF>20.313 1FC0>20.342 1FC1>20.308.342 1FC2>1F74.3B9
  1FC3>3B7.3B9 1FC4>3AE.3B9 1FC7>1FC6.3B9 1FC8-1FCA+2>1F72 1FC9>3AD 1FCB>3AE 1FCC>3B7.3B9
  1FCD>20.313.300 1FCE>20.313.301 1FCF>20.313.342 1FD8-1FD9>1FD0 1FDA:1F76.3AF 1FDD>20.314.300
  1FDE>20.314.301 1FDF>20.314.342 1FE8-1FE9>1FE0 1FEA:1F7A.3CD.1FE5 1FED>20.308.300
  1FEE>20.308.301 1FF2>1F7C.3B9 1FF3>3C9.3B9 1FF4>3CE.3B9 1FF7>1FF6.3B9 1FF8>1F78 1FF9-1FFB+2>3CC
  1FFA>1F7C 1FFC>3C9.3B9 1FFD>20.301 1FFE>20.314 2011>2010 2017>20.333 2033>2032.2032
  2034>2032.2032.2032 2036>2035.2035 2037>2035.2035.2035 203C>21.21 203E>20.305 2047>3F.3F
  2048>3F.21 2049>21.3F 2057>2032.2032.2032.2032 2070:30.69 2074-2079>34 207A:2B.2212.3D
  207D-207E>28 207F>6E 2080-2089>30 208A:2B.2212.3D 208D-208E>28 2090:61.65.6F.78.259.68
  2096-2099>6B 209A>70 209B-209C>73 20A8>72.73 2100>61.2F.63 2101>61.2F.73 2102>63 2103>B0.63
  2105>63.2F.6F 2106>63.2F.75 2107>25B 2109>B0.66 210A-210B>67 210C:68.68.68.127.69.69.6C
  2113-2115+2>6C 2116>6E.6F 2119-211B>70 211C:72.72 2120>73.6D 2121>74.65.6C 2122>74.6D 2124>7A
  2126>3C9 2128>7A 212A:6B.E5 212C-212D>62 212F>65 2130-2131>65 2132:214E.6D.6F 2135-2138>5D0
  2139>69 213B>66.61.78 213C:3C0.3B3.3B3.3C0.2211 2145>64 2146-2147>64 2148-2149>69
  2150>31.2044.37 2151>31.2044.39 2152>31.2044.31.30 2153>31.2044.33 2154>32.2044.33
  2155>31.2044.35 2156>32.2044.35 2157>33.2044.35 2158>34.2044.35 2159>31.2044.36 215A>35.2044.36
  215B>31.2044.38 215C>33.2044.38 215D>35.2044.38 215E>37.2044.38 215F>31.2044 2160>69 2161>69.69
  2162>69.69.69 2163>69.76 2164>76 2165>76.69 2166>76.69.69 2167>76.69.69.69 2168>69.78 2169>78
  216A>78.69 216B>78.69.69 216C>6C 216D-216E>63 216F:6D.69 2171>69.69 2172>69.69.69 2173>69.76
  2174>76 2175>76.69 2176>76.69.69 2177>76.69.69.69 2178>69.78 2179>78 217A>78.69 217B>78.69.69
  217C>6C 217D-217E>63 217F>6D 2183>2184 2189>30.2044.33 222C>222B.222B 222D>222B.222B.222B
  222F>222E.222E 2230>222E.222E.222E 2460-2468>31 2469>31.30 246A>31.31 246B>31.32 246C>31.33
  246D>31.34 246E>31.35 246F>31.36 2470>31.37 2471>31.38 2472>31.39 2473>32.30 2474>28.31.29
  2475>28.32.29 2476>28.33.29 2477>28.34.29 2478>28.35.29 2479>28.36.29 247A>28.37.29
  247B>28.38.29 247C>28.39.29 247D>28.31.30.29 247E>28.31.31.29 247F>28.31.32.29 2480>28.31.33.29
  2481>28.31.34.29 2482>28.31.35.29 2483>28.31.36.29 2484>28.31.37.29 2485>28.31.38.29
  2486>28.31.39.29 2487>28.32.30.29 249C>28.61.29 249D>28.62.29 249E>28.63.29 249F>28.64.29
  24A0>28.65.29 24A1>28.66.29 24A2>28.67.29 24A3>28.68.29 24A4>28.69.29 24A5>28.6A.29
  24A6>28.6B.29 24A7>28.6C.29 24A8>28.6D.29 24A9>28.6E.29 24AA>28.6F.29 24AB>28.70.29
  24AC>28.71.29 24AD>28.72.29 24AE>28.73.29 24AF>28.74.29 24B0>28.75.29 24B1>28.76.29
  24B2>28.77.29 24B3>28.78.29 24B4>28.79.29 24B5>28.7A.29 24B6-24CF>61 24D0-24E9>61 24EA>30
  2A0C>222B.222B.222B.222B 2A74>3A.3A.3D 2A75>3D.3D 2A76>3D.3D.3D 2C00-2C2F>2C30 2C60>2C61
  2C62:26B.1D7D.27D 2C67-2C6B+2>2C68 2C6D:251.271.250.252 2C72>2C73 2C75>2C76 2C7C:6A.76
  2C7E-2C7F>23F 2C80-2CE2+2>2C81 2CEB-2CED+2>2CEC 2CF2>2CF3 2D6F>2D61 2E9F>6BCD 2EF3>9F9F
  2F00:4E00.4E28.4E36.4E3F.4E59.4E85.4E8C.4EA0.4EBA.513F.5165.516B.5182.5196.51AB
  2F0F:51E0.51F5.5200.529B.52F9.5315.531A.5338.5341.535C.5369.5382.53B6.53C8.53E3
  2F1E:56D7.571F.58EB.5902.590A.5915.5927.5973.5B50.5B80.5BF8.5C0F.5C22.5C38.5C6E
  2F2D:5C71.5DDB.5DE5.5DF1.5DFE.5E72.5E7A.5E7F.5EF4.5EFE.5F0B.5F13.5F50.5F61.5F73
  2F3C:5FC3.6208.6236.624B.652F.6534.6587.6597.65A4.65B9.65E0.65E5.66F0.6708.6728
  2F4B:6B20.6B62.6B79.6BB3.6BCB.6BD4.6BDB.6C0F.6C14.6C34.706B.722A.7236.723B.723F
  2F5A:7247.7259.725B.72AC.7384.7389.74DC.74E6.7518.751F.7528.7530.758B.7592.7676
  2F69:767D.76AE.76BF.76EE.77DB.77E2.77F3.793A.79B8.79BE.7A74.7ACB.7AF9.7C73.7CF8
  2F78:7F36.7F51.7F8A.7FBD.8001.800C.8012.8033.807F.8089.81E3.81EA.81F3.81FC.820C
  2F87:821B.821F.826E.8272.8278.864D.866B.8840.884C.8863.897E.898B.89D2.8A00.8C37
  2F96:8C46.8C55.8C78.8C9D.8D64.8D70.8DB3.8EAB.8ECA.8F9B.8FB0.8FB5.9091.9149.91C6
  2FA5:91CC.91D1.9577.9580.961C.96B6.96B9.96E8.9751.975E.9762.9769.97CB.97ED.97F3
  2FB4:9801.98A8.98DB.98DF.9996.9999.99AC.9AA8.9AD8.9ADF.9B25.9B2F.9B32.9B3C.9B5A
  2FC3:9CE5.9E75.9E7F.9EA5.9EBB.9EC3.9ECD.9ED1.9EF9.9EFD.9F0E.9F13.9F20.9F3B.9F4A
  2FD2:9F52.9F8D.9F9C.9FA0 3002>2E 3036>3012 3038>5341 3039-303A>5344 309B>20.3099 309C>20.309A
  309F>3088.308A 30FF>30B3.30C8 3131-3132>1100 3133-3135+2>11AA 3134>1102 3136>11AD
  3137-3139>1103 313A-313F>11B0 3140>111A 3141-3143>1106 3144>1121 3145-314E>1109 314F-3163>1161
  3165-3166>1114 3167-3168>11C7 3169:11CC.11CE.11D3.11D7.11D9.111C.11DD.11DF 3171-3172>111D
  3173>1120 3174-3175>1122 3176:1127.1129 3178-317C>112B 317D:1132.1136.1140.1147.114C
  3182-3183>11F1 3184-3186>1157 3187-3188>1184 3189>1188 318A-318B>1191 318C:1194.119E.11A1
  3192:4E00.4E8C.4E09.56DB.4E0A.4E2D.4E0B.7532.4E59.4E19.4E01.5929.5730.4EBA 3200>28.1100.29
  3201>28.1102.29 3202>28.1103.29 3203>28.1105.29 3204>28.1106.29 3205>28.1107.29 3206>28.1109.29
  3207>28.110B.29 3208>28.110C.29 3209>28.110E.29 320A>28.110F.29 320B>28.1110.29 320C>28.1111.29
  320D>28.1112.29 320E>28.AC00.29 320F>28.B098.29 3210>28.B2E4.29 3211>28.B77C.29 3212>28.B9C8.29
  3213>28.BC14.29 3214>28.C0AC.29 3215>28.C544.29 3216>28.C790.29 3217>28.CC28.29 3218>28.CE74.29
  3219>28.D0C0.29 321A>28.D30C.29 321B>28.D558.29 321C>28.C8FC.29 321D>28.C624.C804.29
  321E>28.C624.D6C4.29 3220>28.4E00.29 3221>28.4E8C.29 3222>28.4E09.29 3223>28.56DB.29
  3224>28.4E94.29 3225>28.516D.29 3226>28.4E03.29 3227>28.516B.29 3228>28.4E5D.29 3229>28.5341.29
  322A>28.6708.29 322B>28.706B.29 322C>28.6C34.29 322D>28.6728.29 322E>28.91D1.29 322F>28.571F.29
  3230>28.65E5.29 3231>28.682A.29 3232>28.6709.29 3233>28.793E.29 3234>28.540D.29 3235>28.7279.29
  3236>28.8CA1.29 3237>28.795D.29 3238>28.52B4.29 3239>28.4EE3.29 323A>28.547C.29 323B>28.5B66.29
  323C>28.76E3.29 323D>28.4F01.29 323E>28.8CC7.29 323F>28.5354.29 3240>28.796D.29 3241>28.4F11.29
  3242>28.81EA.29 3243>28.81F3.29 3244:554F.5E7C.6587.7B8F 3250>70.74.65 3251>32.31 3252>32.32
  3253>32.33 3254>32.34 3255>32.35 3256>32.36 3257>32.37 3258>32.38 3259>32.39 325A>33.30
  325B>33.31 325C>33.32 325D>33.33 325E>33.34 325F>33.35 3260>1100 3261-3262>1102 3263-3265>1105
  3266>1109 3267-3268>110B 3269-326D>110E
  326E:AC00.B098.B2E4.B77C.B9C8.BC14.C0AC.C544.C790.CC28.CE74.D0C0.D30C.D558 327C>CC38.ACE0
  327D>C8FC.C758 327E>C6B0
  3280:4E00.4E8C.4E09.56DB.4E94.516D.4E03.516B.4E5D.5341.6708.706B.6C34.6728.91D1
  328F:571F.65E5.682A.6709.793E.540D.7279.8CA1.795D.52B4.79D8.7537.5973.9069.512A
  329E:5370.6CE8.9805.4F11.5199.6B63.4E0A.4E2D.4E0B.5DE6.53F3.533B.5B97.5B66.76E3
  32AD:4F01.8CC7.5354.591C 32B1>33.36 32B2>33.37 32B3>33.38 32B4>33.39 32B5>34.30 32B6>34.31
  32B7>34.32 32B8>34.33 32B9>34.34 32BA>34.35 32BB>34.36 32BC>34.37 32BD>34.38 32BE>34.39
  32BF>35.30 32C0>31.6708 32C1>32.6708 32C2>33.6708 32C3>34.6708 32C4>35.6708 32C5>36.6708
  32C6>37.6708 32C7>38.6708 32C8>39.6708 32C9>31.30.6708 32CA>31.31.6708 32CB>31.32.6708
  32CC>68.67 32CD>65.72.67 32CE>65.76 32CF>6C.74.64 32D0:30A2.30A4.30A6.30A8 32D4-32D5>30AA
  32D6:30AD.30AF.30B1.30B3.30B5.30B7.30B9.30BB.30BD.30BF.30C1.30C4.30C6.30C8 32E4-32E9>30CA
  32EA:30D2.30D5.30D8.30DB 32EE-32F2>30DE 32F3:30E4.30E6 32F5-32FA>30E8 32FB-32FE>30EF
  32FF>4EE4.548C 3300>30A2.30D1.30FC.30C8 3301>30A2.30EB.30D5.30A1 3302>30A2.30F3.30DA.30A2
  3303>30A2.30FC.30EB 3304>30A4.30CB.30F3.30B0 3305>30A4.30F3.30C1 3306>30A6.30A9.30F3
  3307>30A8.30B9.30AF.30FC.30C9 3308>30A8.30FC.30AB.30FC 3309>30AA.30F3.30B9 330A>30AA.30FC.30E0
  330B>30AB.30A4.30EA 330C>30AB.30E9.30C3.30C8 330D>30AB.30ED.30EA.30FC 330E>30AC.30ED.30F3
  330F>30AC.30F3.30DE 3310>30AE.30AC 3311>30AE.30CB.30FC 3312>30AD.30E5.30EA.30FC
  3313>30AE.30EB.30C0.30FC 3314>30AD.30ED 3315>30AD.30ED.30B0.30E9.30E0
  3316>30AD.30ED.30E1.30FC.30C8.30EB 3317>30AD.30ED.30EF.30C3.30C8 3318>30B0.30E9.30E0
  3319>30B0.30E9.30E0.30C8.30F3 331A>30AF.30EB.30BC.30A4.30ED 331B>30AF.30ED.30FC.30CD
  331C>30B1.30FC.30B9 331D>30B3.30EB.30CA 331E>30B3.30FC.30DD 331F>30B5.30A4.30AF.30EB
  3320>30B5.30F3.30C1.30FC.30E0 3321>30B7.30EA.30F3.30B0 3322>30BB.30F3.30C1 3323>30BB.30F3.30C8
  3324>30C0.30FC.30B9 3325>30C7.30B7 3326>30C9.30EB 3327>30C8.30F3 3328>30CA.30CE
  3329>30CE.30C3.30C8 332A>30CF.30A4.30C4 332B>30D1.30FC.30BB.30F3.30C8 332C>30D1.30FC.30C4
  332D>30D0.30FC.30EC.30EB 332E>30D4.30A2.30B9.30C8.30EB 332F>30D4.30AF.30EB 3330>30D4.30B3
  3331>30D3.30EB 3332>30D5.30A1.30E9.30C3.30C9 3333>30D5.30A3.30FC.30C8
  3334>30D6.30C3.30B7.30A7.30EB 3335>30D5.30E9.30F3 3336>30D8.30AF.30BF.30FC.30EB 3337>30DA.30BD
  3338>30DA.30CB.30D2 3339>30D8.30EB.30C4 333A>30DA.30F3.30B9 333B>30DA.30FC.30B8
  333C>30D9.30FC.30BF 333D>30DD.30A4.30F3.30C8 333E>30DC.30EB.30C8 333F>30DB.30F3
  3340>30DD.30F3.30C9 3341>30DB.30FC.30EB 3342>30DB.30FC.30F3 3343>30DE.30A4.30AF.30ED
  3344>30DE.30A4.30EB 3345>30DE.30C3.30CF 3346>30DE.30EB.30AF 3347>30DE.30F3.30B7.30E7.30F3
  3348>30DF.30AF.30ED.30F3 3349>30DF.30EA 334A>30DF.30EA.30D0.30FC.30EB 334B>30E1.30AC
  334C>30E1.30AC.30C8.30F3 334D>30E1.30FC.30C8.30EB 334E>30E4.30FC.30C9 334F>30E4.30FC.30EB
  3350>30E6.30A2.30F3 3351>30EA.30C3.30C8.30EB 3352>30EA.30E9 3353>30EB.30D4.30FC
  3354>30EB.30FC.30D6.30EB 3355>30EC.30E0 3356>30EC.30F3.30C8.30B2.30F3 3357>30EF.30C3.30C8
  3358>30.70B9 3359>31.70B9 335A>32.70B9 335B>33.70B9 335C>34.70B9 335D>35.70B9 335E>36.70B9
  335F>37.70B9 3360>38.70B9 3361>39.70B9 3362>31.30.70B9 3363>31.31.70B9 3364>31.32.70B9
  3365>31.33.70B9 3366>31.34.70B9 3367>31.35.70B9 3368>31.36.70B9 3369>31.37.70B9 336A>31.38.70B9
  336B>31.39.70B9 336C>32.30.70B9 336D>32.31.70B9 336E>32.32.70B9 336F>32.33.70B9 3370>32.34.70B9
  3371>68.70.61 3372>64.61 3373>61.75 3374>62.61.72 3375>6F.76 3376>70.63 3377>64.6D
  3378>64.6D.32 3379>64.6D.33 337A>69.75 337B>5E73.6210 337C>662D.548C 337D>5927.6B63
  337E>660E.6CBB 337F>682A.5F0F.4F1A.793E 3380>70.61 3381>6E.61 3382>3BC.61 3383>6D.61 3384>6B.61
  3385>6B.62 3386>6D.62 3387>67.62 3388>63.61.6C 3389>6B.63.61.6C 338A>70.66 338B>6E.66
  338C>3BC.66 338D>3BC.67 338E>6D.67 338F>6B.67 3390>68.7A 3391>6B.68.7A 3392>6D.68.7A
  3393>67.68.7A 3394>74.68.7A 3395>3BC.6C 3396>6D.6C 3397>64.6C 3398>6B.6C 3399>66.6D 339A>6E.6D
  339B>3BC.6D 339C>6D.6D 339D>63.6D 339E>6B.6D 339F>6D.6D.32 33A0>63.6D.32 33A1>6D.32
  33A2>6B.6D.32 33A3>6D.6D.33 33A4>63.6D.33 33A5>6D.33 33A6>6B.6D.33 33A7>6D.2215.73
  33A8>6D.2215.73.32 33A9>70.61 33AA>6B.70.61 33AB>6D.70.61 33AC>67.70.61 33AD>72.61.64
  33AE>72.61.64.2215.73 33AF>72.61.64.2215.73.32 33B0>70.73 33B1>6E.73 33B2>3BC.73 33B3>6D.73
  33B4>70.76 33B5>6E.76 33B6>3BC.76 33B7>6D.76 33B8>6B.76 33B9>6D.76 33BA>70.77 33BB>6E.77
  33BC>3BC.77 33BD>6D.77 33BE>6B.77 33BF>6D.77 33C0>6B.3C9 33C1>6D.3C9 33C3>62.71 33C4>63.63
  33C5>63.64 33C6>63.2215.6B.67 33C8>64.62 33C9>67.79 33CA>68.61 33CB>68.70 33CC>69.6E 33CD>6B.6B
  33CE>6B.6D 33CF>6B.74 33D0>6C.6D 33D1>6C.6E 33D2>6C.6F.67 33D3>6C.78 33D4>6D.62 33D5>6D.69.6C
  33D6>6D.6F.6C 33D7>70.68 33D9>70.70.6D 33DA>70.72 33DB>73.72 33DC>73.76 33DD>77.62
  33DE>76.2215.6D 33DF>61.2215.6D 33E0>31.65E5 33E1>32.65E5 33E2>33.65E5 33E3>34.65E5
  33E4>35.65E5 33E5>36.65E5 33E6>37.65E5 33E7>38.65E5 33E8>39.65E5 33E9>31.30.65E5
  33EA>31.31.65E5 33EB>31.32.65E5 33EC>31.33.65E5 33ED>31.34.65E5 33EE>31.35.65E5 33EF>31.36.65E5
  33F0>31.37.65E5 33F1>31.38.65E5 33F2>31.39.65E5 33F3>32.30.65E5 33F4>32.31.65E5 33F5>32.32.65E5
  33F6>32.33.65E5 33F7>32.34.65E5 33F8>32.35.65E5 33F9>32.36.65E5 33FA>32.37.65E5 33FB>32.38.65E5
  33FC>32.39.65E5 33FD>33.30.65E5 33FE>33.31.65E5 33FF>67.61.6C A640-A66C+2>A641 A680-A69A+2>A681
  A69C:44A.44C A722-A72E+2>A723 A732-A76E+2>A733 A770>A76F A779-A77B+2>A77A A77D>1D79
  A77E-A786+2>A77F A78B>A78C A78D>265 A790-A792+2>A791 A796-A7A8+2>A797 A7AA:266.25C.261.26C.26A
  A7B0:29E.287.29D.AB53 A7B4-A7C2+2>A7B5 A7C4:A794.282.1D8E A7C7-A7C9+2>A7C8 A7CB>264
  A7CC-A7DA+2>A7CD A7DC>19B A7F1:73.63.66.71.A7F6 A7F8:127.153 AB5C:A727.AB37.26B.AB52 AB69>28D
  AB70-ABBF>13A0 FB00>66.66 FB01>66.69 FB02>66.6C FB03>66.66.69 FB04>66.66.6C FB05>73.74
  FB06>73.74 FB13>574.576 FB14>574.565 FB15>574.56B FB16>57E.576 FB17>574.56D FB20:5E2.5D0
  FB22-FB23>5D3 FB24-FB26>5DB FB27:5E8.5EA.2B FB4F>5D0.5DC FB50:671.671.67B.67B.67B.67B.67E.67E
  FB58-FB5A+2>67E FB59-FB5B+2>67E
  FB5C:680.680.67A.67A.67A.67A.67F.67F.67F.67F.679.679.679.679.6A4 FB6B:6A4 FB6C-FB6E+2>6A4
  FB6D-FB6F+2>6A4 FB70:6A6.6A6.684.684.684.684.683.683.683.683.686.686.686 FB7D-FB7E>686
  FB7F:687.687.687.68D.68D FB84-FB86+2>68C FB85-FB87+2>68C
  FB88:688.688.698.698.691.691.6A9.6A9.6A9.6A9.6AF.6AF.6AF.6AF.6B3
  FB97:6B3.6B3.6B3.6B1.6B1.6B1.6B1.6BA FB9F-FBA0>6BA FBA1:6BB.6BB.6BB.6C0 FBA5-FBA6>6C0
  FBA7:6C1.6C1.6C1.6BE.6BE.6BE.6BE.6D2 FBAF-FBB0>6D2 FBB1>6D3 FBD3:6AD.6AD.6AD.6AD.6C7.6C7
  FBD9-FBDB+2>6C6 FBDA-FBDC+2>6C6 FBDD>6C7.674
  FBDE:6CB.6CB.6C5.6C5.6C9.6C9.6D0.6D0.6D0.6D0.649.649 FBEA>626.627 FBEB>626.627 FBEC>626.6D5
  FBED>626.6D5 FBEE>626.648 FBEF>626.648 FBF0>626.6C7 FBF1>626.6C7 FBF2>626.6C6 FBF3>626.6C6
  FBF4>626.6C8 FBF5>626.6C8 FBF6>626.6D0 FBF7>626.6D0 FBF8>626.6D0 FBF9>626.649 FBFA>626.649
  FBFB>626.649 FBFC:6CC.6CC.6CC.6CC FC00>626.62C FC01>626.62D FC02>626.645 FC03>626.649
  FC04>626.64A FC05>628.62C FC06>628.62D FC07>628.62E FC08>628.645 FC09>628.649 FC0A>628.64A
  FC0B>62A.62C FC0C>62A.62D FC0D>62A.62E FC0E>62A.645 FC0F>62A.649 FC10>62A.64A FC11>62B.62C
  FC12>62B.645 FC13>62B.649 FC14>62B.64A FC15>62C.62D FC16>62C.645 FC17>62D.62C FC18>62D.645
  FC19>62E.62C FC1A>62E.62D FC1B>62E.645 FC1C>633.62C FC1D>633.62D FC1E>633.62E FC1F>633.645
  FC20>635.62D FC21>635.645 FC22>636.62C FC23>636.62D FC24>636.62E FC25>636.645 FC26>637.62D
  FC27>637.645 FC28>638.645 FC29>639.62C FC2A>639.645 FC2B>63A.62C FC2C>63A.645 FC2D>641.62C
  FC2E>641.62D FC2F>641.62E FC30>641.645 FC31>641.649 FC32>641.64A FC33>642.62D FC34>642.645
  FC35>642.649 FC36>642.64A FC37>643.627 FC38>643.62C FC39>643.62D FC3A>643.62E FC3B>643.644
  FC3C>643.645 FC3D>643.649 FC3E>643.64A FC3F>644.62C FC40>644.62D FC41>644.62E FC42>644.645
  FC43>644.649 FC44>644.64A FC45>645.62C FC46>645.62D FC47>645.62E FC48>645.645 FC49>645.649
  FC4A>645.64A FC4B>646.62C FC4C>646.62D FC4D>646.62E FC4E>646.645 FC4F>646.649 FC50>646.64A
  FC51>647.62C FC52>647.645 FC53>647.649 FC54>647.64A FC55>64A.62C FC56>64A.62D FC57>64A.62E
  FC58>64A.645 FC59>64A.649 FC5A>64A.64A FC5B>630.670 FC5C>631.670 FC5D>649.670 FC5E>20.64C.651
  FC5F>20.64D.651 FC60>20.64E.651 FC61>20.64F.651 FC62>20.650.651 FC63>20.651.670 FC64>626.631
  FC65>626.632 FC66>626.645 FC67>626.646 FC68>626.649 FC69>626.64A FC6A>628.631 FC6B>628.632
  FC6C>628.645 FC6D>628.646 FC6E>628.649 FC6F>628.64A FC70>62A.631 FC71>62A.632 FC72>62A.645
  FC73>62A.646 FC74>62A.649 FC75>62A.64A FC76>62B.631 FC77>62B.632 FC78>62B.645 FC79>62B.646
  FC7A>62B.649 FC7B>62B.64A FC7C>641.649 FC7D>641.64A FC7E>642.649 FC7F>642.64A FC80>643.627
  FC81>643.644 FC82>643.645 FC83>643.649 FC84>643.64A FC85>644.645 FC86>644.649 FC87>644.64A
  FC88>645.627 FC89>645.645 FC8A>646.631 FC8B>646.632 FC8C>646.645 FC8D>646.646 FC8E>646.649
  FC8F>646.64A FC90>649.670 FC91>64A.631 FC92>64A.632 FC93>64A.645 FC94>64A.646 FC95>64A.649
  FC96>64A.64A FC97>626.62C FC98>626.62D FC99>626.62E FC9A>626.645 FC9B>626.647 FC9C>628.62C
  FC9D>628.62D FC9E>628.62E FC9F>628.645 FCA0>628.647 FCA1>62A.62C FCA2>62A.62D FCA3>62A.62E
  FCA4>62A.645 FCA5>62A.647 FCA6>62B.645 FCA7>62C.62D FCA8>62C.645 FCA9>62D.62C FCAA>62D.645
  FCAB>62E.62C FCAC>62E.645 FCAD>633.62C FCAE>633.62D FCAF>633.62E FCB0>633.645 FCB1>635.62D
  FCB2>635.62E FCB3>635.645 FCB4>636.62C FCB5>636.62D FCB6>636.62E FCB7>636.645 FCB8>637.62D
  FCB9>638.645 FCBA>639.62C FCBB>639.645 FCBC>63A.62C FCBD>63A.645 FCBE>641.62C FCBF>641.62D
  FCC0>641.62E FCC1>641.645 FCC2>642.62D FCC3>642.645 FCC4>643.62C FCC5>643.62D FCC6>643.62E
  FCC7>643.644 FCC8>643.645 FCC9>644.62C FCCA>644.62D FCCB>644.62E FCCC>644.645 FCCD>644.647
  FCCE>645.62C FCCF>645.62D FCD0>645.62E FCD1>645.645 FCD2>646.62C FCD3>646.62D FCD4>646.62E
  FCD5>646.645 FCD6>646.647 FCD7>647.62C FCD8>647.645 FCD9>647.670 FCDA>64A.62C FCDB>64A.62D
  FCDC>64A.62E FCDD>64A.645 FCDE>64A.647 FCDF>626.645 FCE0>626.647 FCE1>628.645 FCE2>628.647
  FCE3>62A.645 FCE4>62A.647 FCE5>62B.645 FCE6>62B.647 FCE7>633.645 FCE8>633.647 FCE9>634.645
  FCEA>634.647 FCEB>643.644 FCEC>643.645 FCED>644.645 FCEE>646.645 FCEF>646.647 FCF0>64A.645
  FCF1>64A.647 FCF2>640.64E.651 FCF3>640.64F.651 FCF4>640.650.651 FCF5>637.649 FCF6>637.64A
  FCF7>639.649 FCF8>639.64A FCF9>63A.649 FCFA>63A.64A FCFB>633.649 FCFC>633.64A FCFD>634.649
  FCFE>634.64A FCFF>62D.649 FD00>62D.64A FD01>62C.649 FD02>62C.64A FD03>62E.649 FD04>62E.64A
  FD05>635.649 FD06>635.64A FD07>636.649 FD08>636.64A FD09>634.62C FD0A>634.62D FD0B>634.62E
  FD0C>634.645 FD0D>634.631 FD0E>633.631 FD0F>635.631 FD10>636.631 FD11>637.649 FD12>637.64A
  FD13>639.649 FD14>639.64A FD15>63A.649 FD16>63A.64A FD17>633.649 FD18>633.64A FD19>634.649
  FD1A>634.64A FD1B>62D.649 FD1C>62D.64A FD1D>62C.649 FD1E>62C.64A FD1F>62E.649 FD20>62E.64A
  FD21>635.649 FD22>635.64A FD23>636.649 FD24>636.64A FD25>634.62C FD26>634.62D FD27>634.62E
  FD28>634.645 FD29>634.631 FD2A>633.631 FD2B>635.631 FD2C>636.631 FD2D>634.62C FD2E>634.62D
  FD2F>634.62E FD30>634.645 FD31>633.647 FD32>634.647 FD33>637.645 FD34>633.62C FD35>633.62D
  FD36>633.62E FD37>634.62C FD38>634.62D FD39>634.62E FD3A>637.645 FD3B>638.645 FD3C>627.64B
  FD3D>627.64B FD50>62A.62C.645 FD51>62A.62D.62C FD52>62A.62D.62C FD53>62A.62D.645
  FD54>62A.62E.645 FD55>62A.645.62C FD56>62A.645.62D FD57>62A.645.62E FD58>62C.645.62D
  FD59>62C.645.62D FD5A>62D.645.64A FD5B>62D.645.649 FD5C>633.62D.62C FD5D>633.62C.62D
  FD5E>633.62C.649 FD5F>633.645.62D FD60>633.645.62D FD61>633.645.62C FD62>633.645.645
  FD63>633.645.645 FD64>635.62D.62D FD65>635.62D.62D FD66>635.645.645 FD67>634.62D.645
  FD68>634.62D.645 FD69>634.62C.64A FD6A>634.645.62E FD6B>634.645.62E FD6C>634.645.645
  FD6D>634.645.645 FD6E>636.62D.649 FD6F>636.62E.645 FD70>636.62E.645 FD71>637.645.62D
  FD72>637.645.62D FD73>637.645.645 FD74>637.645.64A FD75>639.62C.645 FD76>639.645.645
  FD77>639.645.645 FD78>639.645.649 FD79>63A.645.645 FD7A>63A.645.64A FD7B>63A.645.649
  FD7C>641.62E.645 FD7D>641.62E.645 FD7E>642.645.62D FD7F>642.645.645 FD80>644.62D.645
  FD81>644.62D.64A FD82>644.62D.649 FD83>644.62C.62C FD84>644.62C.62C FD85>644.62E.645
  FD86>644.62E.645 FD87>644.645.62D FD88>644.645.62D FD89>645.62D.62C FD8A>645.62D.645
  FD8B>645.62D.64A FD8C>645.62C.62D FD8D>645.62C.645 FD8E>645.62E.62C FD8F>645.62E.645
  FD92>645.62C.62E FD93>647.645.62C FD94>647.645.645 FD95>646.62D.645 FD96>646.62D.649
  FD97>646.62C.645 FD98>646.62C.645 FD99>646.62C.649 FD9A>646.645.64A FD9B>646.645.649
  FD9C>64A.645.645 FD9D>64A.645.645 FD9E>628.62E.64A FD9F>62A.62C.64A FDA0>62A.62C.649
  FDA1>62A.62E.64A FDA2>62A.62E.649 FDA3>62A.645.64A FDA4>62A.645.649 FDA5>62C.645.64A
  FDA6>62C.62D.649 FDA7>62C.645.649 FDA8>633.62E.649 FDA9>635.62D.64A FDAA>634.62D.64A
  FDAB>636.62D.64A FDAC>644.62C.64A FDAD>644.645.64A FDAE>64A.62D.64A FDAF>64A.62C.64A
  FDB0>64A.645.64A FDB1>645.645.64A FDB2>642.645.64A FDB3>646.62D.64A FDB4>642.645.62D
  FDB5>644.62D.645 FDB6>639.645.64A FDB7>643.645.64A FDB8>646.62C.62D FDB9>645.62E.64A
  FDBA>644.62C.645 FDBB>643.645.645 FDBC>644.62C.645 FDBD>646.62C.62D FDBE>62C.62D.64A
  FDBF>62D.62C.64A FDC0>645.62C.64A FDC1>641.645.64A FDC2>628.62D.64A FDC3>643.645.645
  FDC4>639.62C.645 FDC5>635.645.645 FDC6>633.62E.64A FDC7>646.62C.64A FDF0>635.644.6D2
  FDF1>642.644.6D2 FDF2>627.644.644.647 FDF3>627.643.628.631 FDF4>645.62D.645.62F
  FDF5>635.644.639.645 FDF6>631.633.648.644 FDF7>639.644.64A.647 FDF8>648.633.644.645
  FDF9>635.644.649 FDFA>635.644.649.20.627.644.644.647.20.639.644.64A.647.20.648.633.644.645
  FDFB>62C.644.20.62C.644.627.644.647 FDFC>631.6CC.627.644 FE10:2C.3001 FE13-FE14>3A FE15:21.3F
  FE17-FE18>3016 FE31:2014.2013.5F.5F FE35-FE36>28 FE37:7B.7D FE39-FE3A>3014 FE3B-FE3C>3010
  FE3D-FE3E>300A FE3F-FE40>3008 FE41-FE44>300C FE47:5B.5D FE49>20.305 FE4A>20.305 FE4B>20.305
  FE4C>20.305 FE4D:5F.5F.5F.2C.3001 FE54:3B.3A.3F.21.2014 FE59-FE5A>28 FE5B:7B.7D FE5D-FE5E>3014
  FE5F:23.26 FE61-FE62>2A FE63:2D.3C.3E.3D FE68>5C FE69-FE6A>24 FE6B>40 FE70>20.64B FE71>640.64B
  FE72>20.64C FE74>20.64D FE76>20.64E FE77>640.64E FE78>20.64F FE79>640.64F FE7A>20.650
  FE7B>640.650 FE7C>20.651 FE7D>640.651 FE7E>20.652 FE7F>640.652 FE80-FE81>621 FE82-FE83>622
  FE84-FE85>623 FE86-FE87>624 FE88-FE89>625 FE8A:626.626 FE8C-FE8D>626 FE8E-FE8F>627 FE90:628.628
  FE92-FE93>628 FE94-FE95>629 FE96:62A.62A FE98-FE99>62A FE9A:62B.62B FE9C-FE9D>62B FE9E:62C.62C
  FEA0-FEA1>62C FEA2:62D.62D FEA4-FEA5>62D FEA6:62E.62E FEA8-FEA9>62E FEAA-FEAB>62F FEAC-FEAD>630
  FEAE-FEAF>631 FEB0-FEB1>632 FEB2:633.633 FEB4-FEB5>633 FEB6:634.634 FEB8-FEB9>634 FEBA:635.635
  FEBC-FEBD>635 FEBE:636.636 FEC0-FEC1>636 FEC2:637.637 FEC4-FEC5>637 FEC6:638.638 FEC8-FEC9>638
  FECA:639.639 FECC-FECD>639 FECE:63A.63A.63A.641.641.641 FED4-FED5>641 FED6:642.642
  FED8-FED9>642 FEDA:643.643 FEDC-FEDD>643 FEDE:644.644 FEE0-FEE1>644 FEE2:645.645 FEE4-FEE5>645
  FEE6:646.646 FEE8-FEE9>646 FEEA:647.647 FEEC-FEED>647 FEEE-FEEF>648 FEF0-FEF1>649
  FEF2:64A.64A.64A FEF5>644.622 FEF6>644.622 FEF7>644.623 FEF8>644.623 FEF9>644.625 FEFA>644.625
  FEFB>644.627 FEFC>644.627 FF01-FF20>21 FF21-FF3A>61 FF3B-FF5E>5B FF5F-FF60>2985 FF61>2E
  FF62-FF63>300C FF64:3001.30FB.30F2.30A1.30A3.30A5.30A7.30A9.30E3.30E5.30E7.30C3.30FC.30A2.30A4
  FF73:30A6.30A8 FF75-FF76>30AA
  FF77:30AD.30AF.30B1.30B3.30B5.30B7.30B9.30BB.30BD.30BF.30C1.30C4.30C6.30C8 FF85-FF8A>30CA
  FF8B:30D2.30D5.30D8.30DB FF8F-FF93>30DE FF94:30E4.30E6 FF96-FF9B>30E8 FF9C:30EF.30F3
  FF9E-FF9F>3099 FFA1-FFA2>1100 FFA3-FFA5+2>11AA FFA4>1102 FFA6>11AD FFA7-FFA9>1103
  FFAA-FFAF>11B0 FFB0>111A FFB1-FFB3>1106 FFB4>1121 FFB5-FFBE>1109 FFC2-FFC7>1161 FFCA-FFCF>1167
  FFD2-FFD7>116D FFDA-FFDC>1173 FFE0-FFE1>A2 FFE2>AC FFE3>20.304 FFE4:A6.A5.20A9 FFE8>2502
  FFE9-FFEC>2190 FFED:25A0.25CB 10400-10427>10428 104B0-104D3>104D8 10570-10594+2>10597
  10571-10579+2>10598 1057D-10589+2>105A4 1058D-10591+2>105B4 10595>105BC 10781-10782>2D0
  10783:E6.299.253 10787-10789+2>2A3 10788>AB66 1078A>2A4 1078B-1078C>256
  1078D:1D91.258.25E.2A9.264.262.260.29B.127.29C.267.284 10799-1079A>2AA
  1079B:26C.1DF04.A78E.26E.1DF05.28E.1DF06.F8 107A3-107A4>276 107A5:71.27A.1DF08 107A8-107A9>27D
  107AA:280.2A8.2A6.AB67.2A7.288.2C71 107B2>28F 107B3-107B4>2A1 107B5>298 107B6-107B8>1C0
  107B9:1DF0A.1DF1E 10C80-10CB2>10CC0 10D50-10D65>10D70 118A0-118BF>118C0 16E40-16E5F>16E60
  16EA0-16EB8>16EBB 1CCD6-1CCEF>61 1CCF0-1CCF9>30 1D400-1D419>61 1D41A-1D433>61 1D434-1D44D>61
  1D44E-1D466+2>61 1D44F-1D453+2>62 1D457-1D467+2>6A 1D468-1D481>61 1D482-1D49B>61
  1D49C-1D49E+2>61 1D49F>64 1D4A2>67 1D4A5-1D4A6>6A 1D4A9-1D4AC>6E 1D4AE-1D4B5>73 1D4B6-1D4B9>61
  1D4BB-1D4CF+2>66 1D4BE-1D4C2+2>69 1D4C6-1D4CE+2>71 1D4D0-1D4E9>61 1D4EA-1D503>61 1D504-1D505>61
  1D507-1D50A>64 1D50D-1D514>6A 1D516-1D51C>73 1D51E-1D537>61 1D538-1D539>61 1D53B-1D53E>64
  1D540-1D544>69 1D546>6F 1D54A-1D550>73 1D552-1D56B>61 1D56C-1D585>61 1D586-1D59F>61
  1D5A0-1D5B9>61 1D5BA-1D5D3>61 1D5D4-1D5ED>61 1D5EE-1D607>61 1D608-1D621>61 1D622-1D63B>61
  1D63C-1D655>61 1D656-1D66F>61 1D670-1D689>61 1D68A-1D6A3>61 1D6A4:131.237 1D6A8-1D6B8>3B1
  1D6B9>3B8 1D6BA-1D6C0>3C3 1D6C1>2207 1D6C2-1D6D2>3B1 1D6D3>3C3 1D6D4-1D6DA>3C3
  1D6DB:2202.3B5.3B8.3BA.3C6.3C1.3C0 1D6E2-1D6F2>3B1 1D6F3>3B8 1D6F4-1D6FA>3C3 1D6FB>2207
  1D6FC-1D70C>3B1 1D70D>3C3 1D70E-1D714>3C3 1D715:2202.3B5.3B8.3BA.3C6.3C1.3C0 1D71C-1D72C>3B1
  1D72D>3B8 1D72E-1D734>3C3 1D735>2207 1D736-1D746>3B1 1D747>3C3 1D748-1D74E>3C3
  1D74F:2202.3B5.3B8.3BA.3C6.3C1.3C0 1D756-1D766>3B1 1D767>3B8 1D768-1D76E>3C3 1D76F>2207
  1D770-1D780>3B1 1D781>3C3 1D782-1D788>3C3 1D789:2202.3B5.3B8.3BA.3C6.3C1.3C0 1D790-1D7A0>3B1
  1D7A1>3B8 1D7A2-1D7A8>3C3 1D7A9>2207 1D7AA-1D7BA>3B1 1D7BB>3C3 1D7BC-1D7C2>3C3
  1D7C3:2202.3B5.3B8.3BA.3C6.3C1.3C0.3DD.3DD 1D7CE-1D7D7>30 1D7D8-1D7E1>30 1D7E2-1D7EB>30
  1D7EC-1D7F5>30 1D7F6-1D7FF>30 1E030-1E038>430 1E039-1E03B>43A 1E03C-1E046>43E 1E047>44B
  1E048-1E049>44D 1E04A:A689.4D9.456.458.4E9.4AF.4CF 1E051-1E059>430 1E05A-1E05B>43A
  1E05C-1E05D>43E 1E05E>441 1E05F-1E064>443 1E065-1E066>44A 1E067:491.456.455.45F.4AB.A651.4B1
  1E900-1E921>1E922 1EE00-1EE01>627 1EE02:62C.62F 1EE05:648.632.62D.637.64A 1EE0A-1EE0D>643
  1EE0E:633.639.641.635.642.631.634 1EE15-1EE16>62A 1EE17:62E.630.636.638.63A.66E.6BA.6A1.66F
  1EE21:628.62C 1EE24>647 1EE27>62D 1EE29>64A 1EE2A-1EE2D>643 1EE2E:633.639.641.635.642 1EE34>634
  1EE35-1EE36>62A 1EE37>62E 1EE39>636 1EE3B>63A 1EE42>62C 1EE47>62D 1EE49>64A 1EE4B-1EE4D+2>644
  1EE4E:633.639 1EE51:635.642 1EE54>634 1EE57>62E 1EE59>636 1EE5B>63A 1EE5D>6BA 1EE5F>66F
  1EE61:628.62C 1EE64>647 1EE67:62D.637.64A 1EE6A-1EE6C+2>643 1EE6D:646.633.639.641.635.642
  1EE74>634 1EE75-1EE76>62A 1EE77>62E 1EE79:636.638.63A.66E 1EE7E>6A1 1EE80-1EE81>627
  1EE82:62C.62F 1EE84-1EE85>647 1EE86:632.62D.637.64A 1EE8B-1EE8D>644
  1EE8E:633.639.641.635.642.631.634 1EE95-1EE96>62A 1EE97:62E.630.636.638.63A 1EEA1:628.62C.62F
  1EEA5:648.632.62D.637.64A 1EEAB-1EEAD>644 1EEAE:633.639.641.635.642.631.634 1EEB5-1EEB6>62A
  1EEB7:62E.630.636.638.63A 1F101>30.2C 1F102>31.2C 1F103>32.2C 1F104>33.2C 1F105>34.2C
  1F106>35.2C 1F107>36.2C 1F108>37.2C 1F109>38.2C 1F10A>39.2C 1F110>28.61.29 1F111>28.62.29
  1F112>28.63.29 1F113>28.64.29 1F114>28.65.29 1F115>28.66.29 1F116>28.67.29 1F117>28.68.29
  1F118>28.69.29 1F119>28.6A.29 1F11A>28.6B.29 1F11B>28.6C.29 1F11C>28.6D.29 1F11D>28.6E.29
  1F11E>28.6F.29 1F11F>28.70.29 1F120>28.71.29 1F121>28.72.29 1F122>28.73.29 1F123>28.74.29
  1F124>28.75.29 1F125>28.76.29 1F126>28.77.29 1F127>28.78.29 1F128>28.79.29 1F129>28.7A.29
  1F12A>3014.73.3015 1F12B:63.72 1F12D>63.64 1F12E>77.7A 1F130-1F149>61 1F14A>68.76 1F14B>6D.76
  1F14C>73.64 1F14D>73.73 1F14E>70.70.76 1F14F>77.63 1F16A>6D.63 1F16B>6D.64 1F16C>6D.72
  1F190>64.6A 1F200>307B.304B 1F201>30B3.30B3 1F202>30B5
  1F210:624B.5B57.53CC.30C7.4E8C.591A.89E3.5929.4EA4.6620.7121.6599.524D.5F8C.518D
  1F21F:65B0.521D.7D42.751F.8CA9.58F0.5439.6F14.6295.6355.4E00.4E09.904A.5DE6.4E2D
  1F22E:53F3.6307.8D70.6253.7981.7A7A.5408.6E80.6709.6708.7533.5272.55B6.914D
  1F240>3014.672C.3015 1F241>3014.4E09.3015 1F242>3014.4E8C.3015 1F243>3014.5B89.3015
  1F244>3014.70B9.3015 1F245>3014.6253.3015 1F246>3014.76D7.3015 1F247>3014.52DD.3015
  1F248>3014.6557.3015 1F250:5F97.53EF 1FBF0-1FBF9>30"

/-- Characters that are left out. -/
def ignored : CodePoints := .ofText "
  AD 34F 115F-1160 17B4-17B5 180B-180F 200B 2060-2064 206A-206F 3164 FE00-FE0F FEFF FFA0
  1BCA0-1BCA3 1D173-1D17A E0100-E01EF"

/-- Characters that show on a page and are refused. -/
def refused : CodePoints := .ofText "
  2024-2026 2488-249B 2FF0-2FFF 31EF 33C2 33C7 33D8 FE12 FE19 FE30 FE52 FFFC-FFFD 1F100"

end VectorIndex.Domain
