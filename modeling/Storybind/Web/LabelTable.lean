/-!
Properties of the characters that labels of host names are made of. Each table lists inclusive code
point ranges in ascending order.
-/

namespace Storybind.Web

/-- Characters outside ASCII that may stand anywhere in a label. -/
def labelRanges : Array (Nat × Nat) := #[
  (223, 246), (248, 255), (257, 257), (259, 259), (261, 261), (263, 263), (265, 265), (267, 267),
  (269, 269), (271, 271), (273, 273), (275, 275), (277, 277), (279, 279), (281, 281), (283, 283),
  (285, 285), (287, 287), (289, 289), (291, 291), (293, 293), (295, 295), (297, 297), (299, 299),
  (301, 301), (303, 303), (305, 305), (309, 309), (311, 312), (314, 314), (316, 316), (318, 318),
  (322, 322), (324, 324), (326, 326), (328, 328), (331, 331), (333, 333), (335, 335), (337, 337),
  (339, 339), (341, 341), (343, 343), (345, 345), (347, 347), (349, 349), (351, 351), (353, 353),
  (355, 355), (357, 357), (359, 359), (361, 361), (363, 363), (365, 365), (367, 367), (369, 369),
  (371, 371), (373, 373), (375, 375), (378, 378), (380, 380), (382, 382), (384, 384), (387, 387),
  (389, 389), (392, 392), (396, 397), (402, 402), (405, 405), (409, 411), (414, 414), (417, 417),
  (419, 419), (421, 421), (424, 424), (426, 427), (429, 429), (432, 432), (436, 436), (438, 438),
  (441, 443), (445, 451), (462, 462), (464, 464), (466, 466), (468, 468), (470, 470), (472, 472),
  (474, 474), (476, 477), (479, 479), (481, 481), (483, 483), (485, 485), (487, 487), (489, 489),
  (491, 491), (493, 493), (495, 496), (501, 501), (505, 505), (507, 507), (509, 509), (511, 511),
  (513, 513), (515, 515), (517, 517), (519, 519), (521, 521), (523, 523), (525, 525), (527, 527),
  (529, 529), (531, 531), (533, 533), (535, 535), (537, 537), (539, 539), (541, 541), (543, 543),
  (545, 545), (547, 547), (549, 549), (551, 551), (553, 553), (555, 555), (557, 557), (559, 559),
  (561, 561), (563, 569), (572, 572), (575, 576), (578, 578), (583, 583), (585, 585), (587, 587),
  (589, 589), (591, 687), (697, 705), (710, 721), (748, 748), (750, 750), (768, 831), (834, 834),
  (838, 846), (848, 879), (881, 881), (883, 883), (887, 887), (891, 893), (912, 912), (940, 974),
  (983, 983), (985, 985), (987, 987), (989, 989), (991, 991), (993, 993), (995, 995), (997, 997),
  (999, 999), (1001, 1001), (1003, 1003), (1005, 1005), (1007, 1007), (1011, 1011), (1016, 1016),
  (1019, 1020), (1072, 1119), (1121, 1121), (1123, 1123), (1125, 1125), (1127, 1127), (1129, 1129),
  (1131, 1131), (1133, 1133), (1135, 1135), (1137, 1137), (1139, 1139), (1141, 1141), (1143, 1143),
  (1145, 1145), (1147, 1147), (1149, 1149), (1151, 1151), (1153, 1153), (1155, 1159), (1163, 1163),
  (1165, 1165), (1167, 1167), (1169, 1169), (1171, 1171), (1173, 1173), (1175, 1175), (1177, 1177),
  (1179, 1179), (1181, 1181), (1183, 1183), (1185, 1185), (1187, 1187), (1189, 1189), (1191, 1191),
  (1193, 1193), (1195, 1195), (1197, 1197), (1199, 1199), (1201, 1201), (1203, 1203), (1205, 1205),
  (1207, 1207), (1209, 1209), (1211, 1211), (1213, 1213), (1215, 1215), (1218, 1218), (1220, 1220),
  (1222, 1222), (1224, 1224), (1226, 1226), (1228, 1228), (1230, 1231), (1233, 1233), (1235, 1235),
  (1237, 1237), (1239, 1239), (1241, 1241), (1243, 1243), (1245, 1245), (1247, 1247), (1249, 1249),
  (1251, 1251), (1253, 1253), (1255, 1255), (1257, 1257), (1259, 1259), (1261, 1261), (1263, 1263),
  (1265, 1265), (1267, 1267), (1269, 1269), (1271, 1271), (1273, 1273), (1275, 1275), (1277, 1277),
  (1279, 1279), (1281, 1281), (1283, 1283), (1285, 1285), (1287, 1287), (1289, 1289), (1291, 1291),
  (1293, 1293), (1295, 1295), (1297, 1297), (1299, 1299), (1301, 1301), (1303, 1303), (1305, 1305),
  (1307, 1307), (1309, 1309), (1311, 1311), (1313, 1313), (1315, 1315), (1317, 1317), (1319, 1319),
  (1321, 1321), (1323, 1323), (1325, 1325), (1327, 1327), (1369, 1369), (1376, 1414), (1416, 1416),
  (1425, 1469), (1471, 1471), (1473, 1474), (1476, 1477), (1479, 1479), (1488, 1514), (1519, 1522),
  (1552, 1562), (1568, 1599), (1601, 1631), (1646, 1652), (1657, 1747), (1749, 1756), (1759, 1768),
  (1770, 1775), (1786, 1791), (1808, 1866), (1869, 1969), (1984, 2037), (2045, 2045), (2048, 2093),
  (2112, 2139), (2144, 2154), (2160, 2183), (2185, 2190), (2200, 2273), (2275, 2391), (2400, 2403),
  (2406, 2415), (2417, 2435), (2437, 2444), (2447, 2448), (2451, 2472), (2474, 2480), (2482, 2482),
  (2486, 2489), (2492, 2500), (2503, 2504), (2507, 2510), (2519, 2519), (2528, 2531), (2534, 2545),
  (2556, 2556), (2558, 2558), (2561, 2563), (2565, 2570), (2575, 2576), (2579, 2600), (2602, 2608),
  (2610, 2610), (2613, 2613), (2616, 2617), (2620, 2620), (2622, 2626), (2631, 2632), (2635, 2637),
  (2641, 2641), (2652, 2652), (2662, 2677), (2689, 2691), (2693, 2701), (2703, 2705), (2707, 2728),
  (2730, 2736), (2738, 2739), (2741, 2745), (2748, 2757), (2759, 2761), (2763, 2765), (2768, 2768),
  (2784, 2787), (2790, 2799), (2809, 2815), (2817, 2819), (2821, 2828), (2831, 2832), (2835, 2856),
  (2858, 2864), (2866, 2867), (2869, 2873), (2876, 2884), (2887, 2888), (2891, 2893), (2901, 2903),
  (2911, 2915), (2918, 2927), (2929, 2929), (2946, 2947), (2949, 2954), (2958, 2960), (2962, 2965),
  (2969, 2970), (2972, 2972), (2974, 2975), (2979, 2980), (2984, 2986), (2990, 3001), (3006, 3010),
  (3014, 3016), (3018, 3021), (3024, 3024), (3031, 3031), (3046, 3055), (3072, 3084), (3086, 3088),
  (3090, 3112), (3114, 3129), (3132, 3140), (3142, 3144), (3146, 3149), (3157, 3158), (3160, 3162),
  (3165, 3165), (3168, 3171), (3174, 3183), (3200, 3203), (3205, 3212), (3214, 3216), (3218, 3240),
  (3242, 3251), (3253, 3257), (3260, 3268), (3270, 3272), (3274, 3277), (3285, 3286), (3293, 3294),
  (3296, 3299), (3302, 3311), (3313, 3314), (3328, 3340), (3342, 3344), (3346, 3396), (3398, 3400),
  (3402, 3406), (3412, 3415), (3423, 3427), (3430, 3439), (3450, 3455), (3457, 3459), (3461, 3478),
  (3482, 3505), (3507, 3515), (3517, 3517), (3520, 3526), (3530, 3530), (3535, 3540), (3542, 3542),
  (3544, 3551), (3558, 3567), (3570, 3571), (3585, 3634), (3636, 3642), (3648, 3662), (3664, 3673),
  (3713, 3714), (3716, 3716), (3718, 3722), (3724, 3747), (3749, 3749), (3751, 3762), (3764, 3773),
  (3776, 3780), (3782, 3782), (3784, 3789), (3792, 3801), (3806, 3807), (3840, 3840), (3851, 3851),
  (3864, 3865), (3872, 3881), (3893, 3893), (3895, 3895), (3897, 3897), (3902, 3906), (3908, 3911),
  (3913, 3916), (3918, 3921), (3923, 3926), (3928, 3931), (3933, 3944), (3946, 3948), (3953, 3954),
  (3956, 3956), (3962, 3968), (3970, 3972), (3974, 3986), (3988, 3991), (3993, 3996), (3998, 4001),
  (4003, 4006), (4008, 4011), (4013, 4024), (4026, 4028), (4038, 4038), (4096, 4169), (4176, 4253),
  (4304, 4346), (4349, 4351), (4608, 4680), (4682, 4685), (4688, 4694), (4696, 4696), (4698, 4701),
  (4704, 4744), (4746, 4749), (4752, 4784), (4786, 4789), (4792, 4798), (4800, 4800), (4802, 4805),
  (4808, 4822), (4824, 4880), (4882, 4885), (4888, 4954), (4957, 4959), (4992, 5007), (5024, 5109),
  (5121, 5740), (5743, 5759), (5761, 5786), (5792, 5866), (5873, 5880), (5888, 5909), (5919, 5940),
  (5952, 5971), (5984, 5996), (5998, 6000), (6002, 6003), (6016, 6067), (6070, 6099), (6103, 6103),
  (6108, 6109), (6112, 6121), (6160, 6169), (6176, 6264), (6272, 6314), (6320, 6389), (6400, 6430),
  (6432, 6443), (6448, 6459), (6470, 6509), (6512, 6516), (6528, 6571), (6576, 6601), (6608, 6617),
  (6656, 6683), (6688, 6750), (6752, 6780), (6783, 6793), (6800, 6809), (6823, 6823), (6832, 6845),
  (6847, 6862), (6912, 6988), (6992, 7001), (7019, 7027), (7040, 7155), (7168, 7223), (7232, 7241),
  (7245, 7293), (7376, 7378), (7380, 7418), (7424, 7467), (7471, 7471), (7483, 7483), (7502, 7502),
  (7531, 7543), (7545, 7578), (7616, 7679), (7681, 7681), (7683, 7683), (7685, 7685), (7687, 7687),
  (7689, 7689), (7691, 7691), (7693, 7693), (7695, 7695), (7697, 7697), (7699, 7699), (7701, 7701),
  (7703, 7703), (7705, 7705), (7707, 7707), (7709, 7709), (7711, 7711), (7713, 7713), (7715, 7715),
  (7717, 7717), (7719, 7719), (7721, 7721), (7723, 7723), (7725, 7725), (7727, 7727), (7729, 7729),
  (7731, 7731), (7733, 7733), (7735, 7735), (7737, 7737), (7739, 7739), (7741, 7741), (7743, 7743),
  (7745, 7745), (7747, 7747), (7749, 7749), (7751, 7751), (7753, 7753), (7755, 7755), (7757, 7757),
  (7759, 7759), (7761, 7761), (7763, 7763), (7765, 7765), (7767, 7767), (7769, 7769), (7771, 7771),
  (7773, 7773), (7775, 7775), (7777, 7777), (7779, 7779), (7781, 7781), (7783, 7783), (7785, 7785),
  (7787, 7787), (7789, 7789), (7791, 7791), (7793, 7793), (7795, 7795), (7797, 7797), (7799, 7799),
  (7801, 7801), (7803, 7803), (7805, 7805), (7807, 7807), (7809, 7809), (7811, 7811), (7813, 7813),
  (7815, 7815), (7817, 7817), (7819, 7819), (7821, 7821), (7823, 7823), (7825, 7825), (7827, 7827),
  (7829, 7833), (7836, 7837), (7839, 7839), (7841, 7841), (7843, 7843), (7845, 7845), (7847, 7847),
  (7849, 7849), (7851, 7851), (7853, 7853), (7855, 7855), (7857, 7857), (7859, 7859), (7861, 7861),
  (7863, 7863), (7865, 7865), (7867, 7867), (7869, 7869), (7871, 7871), (7873, 7873), (7875, 7875),
  (7877, 7877), (7879, 7879), (7881, 7881), (7883, 7883), (7885, 7885), (7887, 7887), (7889, 7889),
  (7891, 7891), (7893, 7893), (7895, 7895), (7897, 7897), (7899, 7899), (7901, 7901), (7903, 7903),
  (7905, 7905), (7907, 7907), (7909, 7909), (7911, 7911), (7913, 7913), (7915, 7915), (7917, 7917),
  (7919, 7919), (7921, 7921), (7923, 7923), (7925, 7925), (7927, 7927), (7929, 7929), (7931, 7931),
  (7933, 7933), (7935, 7943), (7952, 7957), (7968, 7975), (7984, 7991), (8000, 8005), (8016, 8023),
  (8032, 8039), (8048, 8048), (8050, 8050), (8052, 8052), (8054, 8054), (8056, 8056), (8058, 8058),
  (8060, 8060), (8112, 8113), (8118, 8118), (8134, 8134), (8144, 8146), (8150, 8151), (8160, 8162),
  (8164, 8167), (8182, 8182), (8526, 8526), (8580, 8580), (11312, 11359), (11361, 11361),
  (11365, 11366), (11368, 11368), (11370, 11370), (11372, 11372), (11377, 11377), (11379, 11380),
  (11382, 11387), (11393, 11393), (11395, 11395), (11397, 11397), (11399, 11399), (11401, 11401),
  (11403, 11403), (11405, 11405), (11407, 11407), (11409, 11409), (11411, 11411), (11413, 11413),
  (11415, 11415), (11417, 11417), (11419, 11419), (11421, 11421), (11423, 11423), (11425, 11425),
  (11427, 11427), (11429, 11429), (11431, 11431), (11433, 11433), (11435, 11435), (11437, 11437),
  (11439, 11439), (11441, 11441), (11443, 11443), (11445, 11445), (11447, 11447), (11449, 11449),
  (11451, 11451), (11453, 11453), (11455, 11455), (11457, 11457), (11459, 11459), (11461, 11461),
  (11463, 11463), (11465, 11465), (11467, 11467), (11469, 11469), (11471, 11471), (11473, 11473),
  (11475, 11475), (11477, 11477), (11479, 11479), (11481, 11481), (11483, 11483), (11485, 11485),
  (11487, 11487), (11489, 11489), (11491, 11492), (11500, 11500), (11502, 11505), (11507, 11507),
  (11520, 11557), (11559, 11559), (11565, 11565), (11568, 11623), (11647, 11670), (11680, 11686),
  (11688, 11694), (11696, 11702), (11704, 11710), (11712, 11718), (11720, 11726), (11728, 11734),
  (11736, 11742), (11744, 11775), (11823, 11823), (12293, 12295), (12330, 12333), (12348, 12348),
  (12353, 12438), (12441, 12442), (12445, 12446), (12449, 12538), (12540, 12542), (12549, 12591),
  (12704, 12735), (12784, 12799), (13312, 19903), (19968, 42124), (42192, 42237), (42240, 42508),
  (42512, 42539), (42561, 42561), (42563, 42563), (42565, 42565), (42567, 42567), (42569, 42569),
  (42571, 42571), (42573, 42573), (42575, 42575), (42577, 42577), (42579, 42579), (42581, 42581),
  (42583, 42583), (42585, 42585), (42587, 42587), (42589, 42589), (42591, 42591), (42593, 42593),
  (42595, 42595), (42597, 42597), (42599, 42599), (42601, 42601), (42603, 42603), (42605, 42607),
  (42612, 42621), (42623, 42623), (42625, 42625), (42627, 42627), (42629, 42629), (42631, 42631),
  (42633, 42633), (42635, 42635), (42637, 42637), (42639, 42639), (42641, 42641), (42643, 42643),
  (42645, 42645), (42647, 42647), (42649, 42649), (42651, 42651), (42654, 42725), (42736, 42737),
  (42775, 42783), (42787, 42787), (42789, 42789), (42791, 42791), (42793, 42793), (42795, 42795),
  (42797, 42797), (42799, 42801), (42803, 42803), (42805, 42805), (42807, 42807), (42809, 42809),
  (42811, 42811), (42813, 42813), (42815, 42815), (42817, 42817), (42819, 42819), (42821, 42821),
  (42823, 42823), (42825, 42825), (42827, 42827), (42829, 42829), (42831, 42831), (42833, 42833),
  (42835, 42835), (42837, 42837), (42839, 42839), (42841, 42841), (42843, 42843), (42845, 42845),
  (42847, 42847), (42849, 42849), (42851, 42851), (42853, 42853), (42855, 42855), (42857, 42857),
  (42859, 42859), (42861, 42861), (42863, 42863), (42865, 42872), (42874, 42874), (42876, 42876),
  (42879, 42879), (42881, 42881), (42883, 42883), (42885, 42885), (42887, 42888), (42892, 42892),
  (42894, 42895), (42897, 42897), (42899, 42901), (42903, 42903), (42905, 42905), (42907, 42907),
  (42909, 42909), (42911, 42911), (42913, 42913), (42915, 42915), (42917, 42917), (42919, 42919),
  (42921, 42921), (42927, 42927), (42933, 42933), (42935, 42935), (42937, 42937), (42939, 42939),
  (42941, 42941), (42943, 42943), (42945, 42945), (42947, 42947), (42952, 42952), (42954, 42954),
  (42961, 42961), (42963, 42963), (42965, 42965), (42967, 42967), (42969, 42969), (42998, 42999),
  (43002, 43047), (43052, 43052), (43072, 43123), (43136, 43205), (43216, 43225), (43232, 43255),
  (43259, 43259), (43261, 43309), (43312, 43347), (43392, 43456), (43471, 43481), (43488, 43518),
  (43520, 43574), (43584, 43597), (43600, 43609), (43616, 43638), (43642, 43714), (43739, 43741),
  (43744, 43759), (43762, 43766), (43777, 43782), (43785, 43790), (43793, 43798), (43808, 43814),
  (43816, 43822), (43824, 43866), (43872, 43880), (43968, 44010), (44012, 44013), (44016, 44025),
  (44032, 55203), (64014, 64015), (64017, 64017), (64019, 64020), (64031, 64031), (64033, 64033),
  (64035, 64036), (64039, 64041), (64286, 64286), (65056, 65071), (65139, 65139), (65536, 65547),
  (65549, 65574), (65576, 65594), (65596, 65597), (65599, 65613), (65616, 65629), (65664, 65786),
  (66045, 66045), (66176, 66204), (66208, 66256), (66272, 66272), (66304, 66335), (66349, 66368),
  (66370, 66377), (66384, 66426), (66432, 66461), (66464, 66499), (66504, 66511), (66600, 66717),
  (66720, 66729), (66776, 66811), (66816, 66855), (66864, 66915), (66967, 66977), (66979, 66993),
  (66995, 67001), (67003, 67004), (67072, 67382), (67392, 67413), (67424, 67431), (67456, 67456),
  (67584, 67589), (67592, 67592), (67594, 67637), (67639, 67640), (67644, 67644), (67647, 67669),
  (67680, 67702), (67712, 67742), (67808, 67826), (67828, 67829), (67840, 67861), (67872, 67897),
  (67968, 68023), (68030, 68031), (68096, 68099), (68101, 68102), (68108, 68115), (68117, 68119),
  (68121, 68149), (68152, 68154), (68159, 68159), (68192, 68220), (68224, 68252), (68288, 68295),
  (68297, 68326), (68352, 68405), (68416, 68437), (68448, 68466), (68480, 68497), (68608, 68680),
  (68800, 68850), (68864, 68903), (68912, 68921), (69248, 69289), (69291, 69292), (69296, 69297),
  (69376, 69404), (69415, 69415), (69424, 69456), (69488, 69509), (69552, 69572), (69600, 69622),
  (69632, 69702), (69734, 69749), (69759, 69818), (69826, 69826), (69840, 69864), (69872, 69881),
  (69888, 69940), (69942, 69951), (69956, 69959), (69968, 70003), (70006, 70006), (70016, 70084),
  (70089, 70092), (70094, 70106), (70108, 70108), (70144, 70161), (70163, 70199), (70206, 70206),
  (70272, 70278), (70280, 70280), (70282, 70285), (70287, 70301), (70303, 70312), (70320, 70378),
  (70384, 70393), (70400, 70403), (70405, 70412), (70415, 70416), (70419, 70440), (70442, 70448),
  (70450, 70451), (70453, 70457), (70459, 70468), (70471, 70472), (70475, 70477), (70480, 70480),
  (70487, 70487), (70493, 70499), (70502, 70508), (70512, 70516), (70656, 70730), (70736, 70745),
  (70750, 70753), (70784, 70853), (70855, 70855), (70864, 70873), (71040, 71093), (71096, 71104),
  (71128, 71133), (71168, 71232), (71236, 71236), (71248, 71257), (71296, 71352), (71360, 71369),
  (71424, 71450), (71453, 71467), (71472, 71481), (71488, 71494), (71680, 71738), (71872, 71913),
  (71935, 71942), (71945, 71945), (71948, 71955), (71957, 71958), (71960, 71989), (71991, 71992),
  (71995, 72003), (72016, 72025), (72096, 72103), (72106, 72151), (72154, 72161), (72163, 72164),
  (72192, 72254), (72263, 72263), (72272, 72345), (72349, 72349), (72368, 72440), (72704, 72712),
  (72714, 72758), (72760, 72768), (72784, 72793), (72818, 72847), (72850, 72871), (72873, 72886),
  (72960, 72966), (72968, 72969), (72971, 73014), (73018, 73018), (73020, 73021), (73023, 73031),
  (73040, 73049), (73056, 73061), (73063, 73064), (73066, 73102), (73104, 73105), (73107, 73112),
  (73120, 73129), (73440, 73462), (73648, 73648), (73728, 74649), (74880, 75075), (77712, 77808),
  (77824, 78894), (82944, 83526), (92160, 92728), (92736, 92766), (92768, 92777), (92784, 92862),
  (92864, 92873), (92880, 92909), (92912, 92916), (92928, 92982), (92992, 92995), (93008, 93017),
  (93027, 93047), (93053, 93071), (93792, 93823), (93952, 94026), (94031, 94087), (94095, 94111),
  (94176, 94177), (94179, 94180), (94192, 94193), (94208, 100343), (100352, 101589),
  (101632, 101640), (110576, 110579), (110581, 110587), (110589, 110590), (110592, 110882),
  (110928, 110930), (110948, 110951), (110960, 111355), (113664, 113770), (113776, 113788),
  (113792, 113800), (113808, 113817), (113821, 113822), (118528, 118573), (118576, 118598),
  (121344, 121398), (121403, 121452), (121461, 121461), (121476, 121476), (121499, 121503),
  (121505, 121519), (122624, 122654), (122880, 122886), (122888, 122904), (122907, 122913),
  (122915, 122916), (122918, 122922), (123136, 123180), (123184, 123197), (123200, 123209),
  (123214, 123214), (123536, 123566), (123584, 123641), (124896, 124902), (124904, 124907),
  (124909, 124910), (124912, 124926), (124928, 125124), (125136, 125142), (125218, 125259),
  (125264, 125273), (131072, 173791), (173824, 177976), (177984, 178205), (178208, 183969),
  (183984, 191456), (196608, 201546)]

/-- Marks that take no room of their own. -/
def nonspacingRanges : Array (Nat × Nat) := #[
  (768, 879), (1155, 1161), (1425, 1469), (1471, 1471), (1473, 1474), (1476, 1477), (1479, 1479),
  (1552, 1562), (1611, 1631), (1648, 1648), (1750, 1756), (1759, 1764), (1767, 1768), (1770, 1773),
  (1809, 1809), (1840, 1866), (1958, 1968), (2027, 2035), (2045, 2045), (2070, 2073), (2075, 2083),
  (2085, 2087), (2089, 2093), (2137, 2139), (2200, 2207), (2250, 2273), (2275, 2306), (2362, 2362),
  (2364, 2364), (2369, 2376), (2381, 2381), (2385, 2391), (2402, 2403), (2433, 2433), (2492, 2492),
  (2497, 2500), (2509, 2509), (2530, 2531), (2558, 2558), (2561, 2562), (2620, 2620), (2625, 2626),
  (2631, 2632), (2635, 2637), (2641, 2641), (2672, 2673), (2677, 2677), (2689, 2690), (2748, 2748),
  (2753, 2757), (2759, 2760), (2765, 2765), (2786, 2787), (2810, 2815), (2817, 2817), (2876, 2876),
  (2879, 2879), (2881, 2884), (2893, 2893), (2901, 2902), (2914, 2915), (2946, 2946), (3008, 3008),
  (3021, 3021), (3072, 3072), (3076, 3076), (3132, 3132), (3134, 3136), (3142, 3144), (3146, 3149),
  (3157, 3158), (3170, 3171), (3201, 3201), (3260, 3260), (3276, 3277), (3298, 3299), (3328, 3329),
  (3387, 3388), (3393, 3396), (3405, 3405), (3426, 3427), (3457, 3457), (3530, 3530), (3538, 3540),
  (3542, 3542), (3633, 3633), (3636, 3642), (3655, 3662), (3761, 3761), (3764, 3772), (3784, 3789),
  (3864, 3865), (3893, 3893), (3895, 3895), (3897, 3897), (3953, 3966), (3968, 3972), (3974, 3975),
  (3981, 3991), (3993, 4028), (4038, 4038), (4141, 4144), (4146, 4151), (4153, 4154), (4157, 4158),
  (4184, 4185), (4190, 4192), (4209, 4212), (4226, 4226), (4229, 4230), (4237, 4237), (4253, 4253),
  (4957, 4959), (5906, 5908), (5938, 5939), (5970, 5971), (6002, 6003), (6068, 6069), (6071, 6077),
  (6086, 6086), (6089, 6099), (6109, 6109), (6155, 6157), (6159, 6159), (6277, 6278), (6313, 6313),
  (6432, 6434), (6439, 6440), (6450, 6450), (6457, 6459), (6679, 6680), (6683, 6683), (6742, 6742),
  (6744, 6750), (6752, 6752), (6754, 6754), (6757, 6764), (6771, 6780), (6783, 6783), (6832, 6862),
  (6912, 6915), (6964, 6964), (6966, 6970), (6972, 6972), (6978, 6978), (7019, 7027), (7040, 7041),
  (7074, 7077), (7080, 7081), (7083, 7085), (7142, 7142), (7144, 7145), (7149, 7149), (7151, 7153),
  (7212, 7219), (7222, 7223), (7376, 7378), (7380, 7392), (7394, 7400), (7405, 7405), (7412, 7412),
  (7416, 7417), (7616, 7679), (8400, 8432), (11503, 11505), (11647, 11647), (11744, 11775),
  (12330, 12333), (12441, 12442), (42607, 42610), (42612, 42621), (42654, 42655), (42736, 42737),
  (43010, 43010), (43014, 43014), (43019, 43019), (43045, 43046), (43052, 43052), (43204, 43205),
  (43232, 43249), (43263, 43263), (43302, 43309), (43335, 43345), (43392, 43394), (43443, 43443),
  (43446, 43449), (43452, 43453), (43493, 43493), (43561, 43566), (43569, 43570), (43573, 43574),
  (43587, 43587), (43596, 43596), (43644, 43644), (43696, 43696), (43698, 43700), (43703, 43704),
  (43710, 43711), (43713, 43713), (43756, 43757), (43766, 43766), (44005, 44005), (44008, 44008),
  (44013, 44013), (64286, 64286), (65024, 65039), (65056, 65071), (66045, 66045), (66272, 66272),
  (66422, 66426), (68097, 68099), (68101, 68102), (68108, 68111), (68152, 68154), (68159, 68159),
  (68325, 68326), (68900, 68903), (69291, 69292), (69446, 69456), (69506, 69509), (69633, 69633),
  (69688, 69702), (69744, 69744), (69747, 69748), (69759, 69761), (69811, 69814), (69817, 69818),
  (69826, 69826), (69888, 69890), (69927, 69931), (69933, 69940), (70003, 70003), (70016, 70017),
  (70070, 70078), (70089, 70092), (70095, 70095), (70191, 70193), (70196, 70196), (70198, 70199),
  (70206, 70206), (70367, 70367), (70371, 70378), (70400, 70401), (70459, 70460), (70464, 70464),
  (70502, 70508), (70512, 70516), (70712, 70719), (70722, 70724), (70726, 70726), (70750, 70750),
  (70835, 70840), (70842, 70842), (70847, 70848), (70850, 70851), (71090, 71093), (71100, 71101),
  (71103, 71104), (71132, 71133), (71219, 71226), (71229, 71229), (71231, 71232), (71339, 71339),
  (71341, 71341), (71344, 71349), (71351, 71351), (71453, 71455), (71458, 71461), (71463, 71467),
  (71727, 71735), (71737, 71738), (71995, 71996), (71998, 71998), (72003, 72003), (72148, 72151),
  (72154, 72155), (72160, 72160), (72193, 72198), (72201, 72202), (72243, 72248), (72251, 72254),
  (72263, 72263), (72273, 72278), (72281, 72283), (72330, 72342), (72344, 72345), (72752, 72758),
  (72760, 72765), (72850, 72871), (72874, 72880), (72882, 72883), (72885, 72886), (73009, 73014),
  (73018, 73018), (73020, 73021), (73023, 73029), (73031, 73031), (73104, 73105), (73109, 73109),
  (73111, 73111), (73459, 73460), (92912, 92916), (92976, 92982), (94031, 94031), (94095, 94098),
  (94180, 94180), (113821, 113822), (118528, 118573), (118576, 118598), (119143, 119145),
  (119163, 119170), (119173, 119179), (119210, 119213), (119362, 119364), (121344, 121398),
  (121403, 121452), (121461, 121461), (121476, 121476), (121499, 121503), (121505, 121519),
  (122880, 122886), (122888, 122904), (122907, 122913), (122915, 122916), (122918, 122922),
  (123184, 123190), (123566, 123566), (123628, 123631), (125136, 125142), (125252, 125258),
  (917760, 917999)]

/-- Marks that take room. -/
def spacingRanges : Array (Nat × Nat) := #[
  (2307, 2307), (2363, 2363), (2366, 2368), (2377, 2380), (2382, 2383), (2434, 2435), (2494, 2496),
  (2503, 2504), (2507, 2508), (2519, 2519), (2563, 2563), (2622, 2624), (2691, 2691), (2750, 2752),
  (2761, 2761), (2763, 2764), (2818, 2819), (2878, 2878), (2880, 2880), (2887, 2888), (2891, 2892),
  (2903, 2903), (3006, 3007), (3009, 3010), (3014, 3016), (3018, 3020), (3031, 3031), (3073, 3075),
  (3137, 3140), (3202, 3203), (3262, 3268), (3270, 3272), (3274, 3275), (3285, 3286), (3330, 3331),
  (3390, 3392), (3398, 3400), (3402, 3404), (3415, 3415), (3458, 3459), (3535, 3537), (3544, 3551),
  (3570, 3571), (3902, 3903), (3967, 3967), (4139, 4140), (4145, 4145), (4152, 4152), (4155, 4156),
  (4182, 4183), (4194, 4196), (4199, 4205), (4227, 4228), (4231, 4236), (4239, 4239), (4250, 4252),
  (5909, 5909), (5940, 5940), (6070, 6070), (6078, 6085), (6087, 6088), (6435, 6438), (6441, 6443),
  (6448, 6449), (6451, 6456), (6681, 6682), (6741, 6741), (6743, 6743), (6753, 6753), (6755, 6756),
  (6765, 6770), (6916, 6916), (6965, 6965), (6971, 6971), (6973, 6977), (6979, 6980), (7042, 7042),
  (7073, 7073), (7078, 7079), (7082, 7082), (7143, 7143), (7146, 7148), (7150, 7150), (7154, 7155),
  (7204, 7211), (7220, 7221), (7393, 7393), (7415, 7415), (12334, 12335), (43043, 43044),
  (43047, 43047), (43136, 43137), (43188, 43203), (43346, 43347), (43395, 43395), (43444, 43445),
  (43450, 43451), (43454, 43456), (43567, 43568), (43571, 43572), (43597, 43597), (43643, 43643),
  (43645, 43645), (43755, 43755), (43758, 43759), (43765, 43765), (44003, 44004), (44006, 44007),
  (44009, 44010), (44012, 44012), (69632, 69632), (69634, 69634), (69762, 69762), (69808, 69810),
  (69815, 69816), (69932, 69932), (69957, 69958), (70018, 70018), (70067, 70069), (70079, 70080),
  (70094, 70094), (70188, 70190), (70194, 70195), (70197, 70197), (70368, 70370), (70402, 70403),
  (70462, 70463), (70465, 70468), (70471, 70472), (70475, 70477), (70487, 70487), (70498, 70499),
  (70709, 70711), (70720, 70721), (70725, 70725), (70832, 70834), (70841, 70841), (70843, 70846),
  (70849, 70849), (71087, 71089), (71096, 71099), (71102, 71102), (71216, 71218), (71227, 71228),
  (71230, 71230), (71340, 71340), (71342, 71343), (71350, 71350), (71456, 71457), (71462, 71462),
  (71724, 71726), (71736, 71736), (71984, 71989), (71991, 71992), (71997, 71997), (72000, 72000),
  (72002, 72002), (72145, 72147), (72156, 72159), (72164, 72164), (72199, 72200), (72249, 72249),
  (72279, 72280), (72343, 72343), (72751, 72751), (72766, 72767), (72873, 72873), (72881, 72881),
  (72884, 72884), (73098, 73102), (73107, 73108), (73110, 73110), (73461, 73462), (94033, 94087),
  (94192, 94193), (119141, 119142), (119149, 119154)]

/-- Letters that are written from right to left. -/
def rightToLeftRanges : Array (Nat × Nat) := #[
  (1488, 1514), (1519, 1524), (1568, 1599), (1601, 1610), (1646, 1647), (1649, 1652), (1657, 1747),
  (1749, 1749), (1765, 1766), (1774, 1775), (1786, 1791), (1808, 1808), (1810, 1839), (1869, 1957),
  (1969, 1969), (1984, 2026), (2036, 2037), (2048, 2069), (2074, 2074), (2084, 2084), (2088, 2088),
  (2112, 2136), (2144, 2154), (2160, 2183), (2185, 2190), (2208, 2249), (65139, 65139),
  (67584, 67589), (67592, 67592), (67594, 67637), (67639, 67640), (67644, 67644), (67647, 67669),
  (67680, 67702), (67712, 67742), (67808, 67826), (67828, 67829), (67840, 67861), (67872, 67897),
  (67968, 68023), (68030, 68031), (68096, 68096), (68112, 68115), (68117, 68119), (68121, 68149),
  (68192, 68220), (68224, 68252), (68288, 68295), (68297, 68324), (68352, 68405), (68416, 68437),
  (68448, 68466), (68480, 68497), (68608, 68680), (68800, 68850), (68864, 68899), (69248, 69289),
  (69296, 69297), (69376, 69404), (69415, 69415), (69424, 69445), (69488, 69505), (69552, 69572),
  (69600, 69622), (124928, 125124), (125218, 125251), (125259, 125259), (125264, 125273)]

/-- Digits that go with letters written from right to left. -/
def arabicNumberRanges : Array (Nat × Nat) := #[
  (1632, 1641), (68912, 68921)]

/-- Characters without a direction of writing, marks apart. -/
def neutralRanges : Array (Nat × Nat) := #[
  (45, 45), (183, 183), (697, 698), (710, 719), (748, 748), (885, 885), (11823, 11823),
  (12539, 12539), (42623, 42623), (42775, 42783), (42888, 42888)]

/-- Letters that join to either side. -/
def dualJoiningRanges : Array (Nat × Nat) := #[
  (1568, 1568), (1574, 1574), (1576, 1576), (1578, 1582), (1587, 1599), (1601, 1607), (1609, 1610),
  (1646, 1647), (1657, 1671), (1690, 1727), (1729, 1730), (1740, 1740), (1742, 1742), (1744, 1745),
  (1786, 1788), (1791, 1791), (1810, 1812), (1818, 1821), (1823, 1831), (1833, 1833), (1835, 1835),
  (1837, 1838), (1870, 1880), (1884, 1898), (1901, 1904), (1906, 1906), (1909, 1911), (1914, 1919),
  (1994, 2026), (2113, 2117), (2120, 2120), (2122, 2131), (2133, 2133), (2144, 2144), (2146, 2149),
  (2152, 2152), (2182, 2182), (2185, 2189), (2208, 2217), (2223, 2224), (2227, 2232), (2234, 2248),
  (6176, 6264), (6279, 6312), (6314, 6314), (43072, 43121), (68288, 68292), (68307, 68310),
  (68312, 68316), (68318, 68320), (68480, 68480), (68482, 68482), (68486, 68488), (68490, 68491),
  (68493, 68493), (68496, 68496), (68865, 68897), (68899, 68899), (69424, 69426), (69428, 69444),
  (69488, 69491), (69494, 69505), (69552, 69552), (69554, 69555), (69560, 69560), (69563, 69564),
  (69566, 69567), (69569, 69569), (69572, 69572), (125218, 125251)]

/-- Letters that join to the letter before them only. -/
def rightJoiningRanges : Array (Nat × Nat) := #[
  (1570, 1573), (1575, 1575), (1577, 1577), (1583, 1586), (1608, 1608), (1649, 1651), (1672, 1689),
  (1728, 1728), (1731, 1739), (1741, 1741), (1743, 1743), (1746, 1747), (1749, 1749), (1774, 1775),
  (1808, 1808), (1813, 1817), (1822, 1822), (1832, 1832), (1834, 1834), (1836, 1836), (1839, 1839),
  (1869, 1869), (1881, 1883), (1899, 1900), (1905, 1905), (1907, 1908), (1912, 1913), (2112, 2112),
  (2118, 2119), (2121, 2121), (2132, 2132), (2134, 2136), (2151, 2151), (2153, 2154), (2160, 2178),
  (2190, 2190), (2218, 2220), (2222, 2222), (2225, 2226), (2233, 2233), (68293, 68293),
  (68295, 68295), (68297, 68298), (68302, 68306), (68317, 68317), (68321, 68321), (68324, 68324),
  (68481, 68481), (68483, 68485), (68489, 68489), (68492, 68492), (68494, 68495), (68497, 68497),
  (68898, 68898), (69427, 69427), (69492, 69493), (69556, 69558), (69561, 69562), (69565, 69565),
  (69570, 69571)]

/-- Letters that join to the letter after them only. -/
def leftJoiningRanges : Array (Nat × Nat) := #[
  (43122, 43122), (68301, 68301), (68311, 68311), (68864, 68864)]

/-- Greek characters. -/
def greekRanges : Array (Nat × Nat) := #[
  (880, 883), (885, 887), (890, 893), (895, 895), (900, 900), (902, 902), (904, 906), (908, 908),
  (910, 929), (931, 993), (1008, 1023), (7462, 7466), (7517, 7521), (7526, 7530), (7615, 7615),
  (7936, 7957), (7960, 7965), (7968, 8005), (8008, 8013), (8016, 8023), (8025, 8025), (8027, 8027),
  (8029, 8029), (8031, 8061), (8064, 8116), (8118, 8132), (8134, 8147), (8150, 8155), (8157, 8175),
  (8178, 8180), (8182, 8190), (8486, 8486), (43877, 43877), (65856, 65934), (65952, 65952),
  (119296, 119365)]

/-- Hebrew characters. -/
def hebrewRanges : Array (Nat × Nat) := #[
  (1425, 1479), (1488, 1514), (1519, 1524), (64285, 64310), (64312, 64316), (64318, 64318),
  (64320, 64321), (64323, 64324), (64326, 64335)]

/-- Japanese and Chinese characters. -/
def kanaHanRanges : Array (Nat × Nat) := #[
  (11904, 11929), (11931, 12019), (12032, 12245), (12293, 12293), (12295, 12295), (12321, 12329),
  (12344, 12347), (12353, 12438), (12445, 12447), (12449, 12538), (12541, 12543), (12784, 12799),
  (13008, 13054), (13056, 13143), (13312, 19903), (19968, 40959), (63744, 64109), (64112, 64217),
  (65382, 65391), (65393, 65437), (94178, 94179), (94192, 94198), (110576, 110579),
  (110581, 110587), (110589, 110590), (110592, 110882), (110898, 110898), (110928, 110930),
  (110933, 110933), (110948, 110951), (127488, 127488), (131072, 173791), (173824, 178205),
  (178208, 183981), (183984, 191456), (191472, 192093), (194560, 195101), (196608, 201546),
  (201552, 210041)]

/-- Ranges of marks with the class that says in which order marks of one letter stand. -/
def markOrders : Array (Nat × Nat × Nat) := #[
  (768, 788, 230), (789, 789, 232), (790, 793, 220), (794, 794, 232), (795, 795, 216),
  (796, 800, 220), (801, 802, 202), (803, 806, 220), (807, 808, 202), (809, 819, 220),
  (820, 824, 1), (825, 828, 220), (829, 836, 230), (837, 837, 240), (838, 838, 230),
  (839, 841, 220), (842, 844, 230), (845, 846, 220), (848, 850, 230), (851, 854, 220),
  (855, 855, 230), (856, 856, 232), (857, 858, 220), (859, 859, 230), (860, 860, 233),
  (861, 862, 234), (863, 863, 233), (864, 865, 234), (866, 866, 233), (867, 879, 230),
  (1155, 1159, 230), (1425, 1425, 220), (1426, 1429, 230), (1430, 1430, 220), (1431, 1433, 230),
  (1434, 1434, 222), (1435, 1435, 220), (1436, 1441, 230), (1442, 1447, 220), (1448, 1449, 230),
  (1450, 1450, 220), (1451, 1452, 230), (1453, 1453, 222), (1454, 1454, 228), (1455, 1455, 230),
  (1456, 1456, 10), (1457, 1457, 11), (1458, 1458, 12), (1459, 1459, 13), (1460, 1460, 14),
  (1461, 1461, 15), (1462, 1462, 16), (1463, 1463, 17), (1464, 1464, 18), (1465, 1466, 19),
  (1467, 1467, 20), (1468, 1468, 21), (1469, 1469, 22), (1471, 1471, 23), (1473, 1473, 24),
  (1474, 1474, 25), (1476, 1476, 230), (1477, 1477, 220), (1479, 1479, 18), (1552, 1559, 230),
  (1560, 1560, 30), (1561, 1561, 31), (1562, 1562, 32), (1611, 1611, 27), (1612, 1612, 28),
  (1613, 1613, 29), (1614, 1614, 30), (1615, 1615, 31), (1616, 1616, 32), (1617, 1617, 33),
  (1618, 1618, 34), (1619, 1620, 230), (1621, 1622, 220), (1623, 1627, 230), (1628, 1628, 220),
  (1629, 1630, 230), (1631, 1631, 220), (1648, 1648, 35), (1750, 1756, 230), (1759, 1762, 230),
  (1763, 1763, 220), (1764, 1764, 230), (1767, 1768, 230), (1770, 1770, 220), (1771, 1772, 230),
  (1773, 1773, 220), (1809, 1809, 36), (1840, 1840, 230), (1841, 1841, 220), (1842, 1843, 230),
  (1844, 1844, 220), (1845, 1846, 230), (1847, 1849, 220), (1850, 1850, 230), (1851, 1852, 220),
  (1853, 1853, 230), (1854, 1854, 220), (1855, 1857, 230), (1858, 1858, 220), (1859, 1859, 230),
  (1860, 1860, 220), (1861, 1861, 230), (1862, 1862, 220), (1863, 1863, 230), (1864, 1864, 220),
  (1865, 1866, 230), (2027, 2033, 230), (2034, 2034, 220), (2035, 2035, 230), (2045, 2045, 220),
  (2070, 2073, 230), (2075, 2083, 230), (2085, 2087, 230), (2089, 2093, 230), (2137, 2139, 220),
  (2200, 2200, 230), (2201, 2203, 220), (2204, 2207, 230), (2250, 2254, 230), (2255, 2259, 220),
  (2260, 2273, 230), (2275, 2275, 220), (2276, 2277, 230), (2278, 2278, 220), (2279, 2280, 230),
  (2281, 2281, 220), (2282, 2284, 230), (2285, 2287, 220), (2288, 2288, 27), (2289, 2289, 28),
  (2290, 2290, 29), (2291, 2293, 230), (2294, 2294, 220), (2295, 2296, 230), (2297, 2298, 220),
  (2299, 2303, 230), (2364, 2364, 7), (2381, 2381, 9), (2385, 2385, 230), (2386, 2386, 220),
  (2387, 2388, 230), (2492, 2492, 7), (2509, 2509, 9), (2558, 2558, 230), (2620, 2620, 7),
  (2637, 2637, 9), (2748, 2748, 7), (2765, 2765, 9), (2876, 2876, 7), (2893, 2893, 9),
  (3021, 3021, 9), (3132, 3132, 7), (3149, 3149, 9), (3157, 3157, 84), (3158, 3158, 91),
  (3260, 3260, 7), (3277, 3277, 9), (3387, 3388, 9), (3405, 3405, 9), (3530, 3530, 9),
  (3640, 3641, 103), (3642, 3642, 9), (3656, 3659, 107), (3768, 3769, 118), (3770, 3770, 9),
  (3784, 3787, 122), (3864, 3865, 220), (3893, 3893, 220), (3895, 3895, 220), (3897, 3897, 216),
  (3953, 3953, 129), (3954, 3954, 130), (3956, 3956, 132), (3962, 3965, 130), (3968, 3968, 130),
  (3970, 3971, 230), (3972, 3972, 9), (3974, 3975, 230), (4038, 4038, 220), (4151, 4151, 7),
  (4153, 4154, 9), (4237, 4237, 220), (4957, 4959, 230), (5908, 5909, 9), (5940, 5940, 9),
  (6098, 6098, 9), (6109, 6109, 230), (6313, 6313, 228), (6457, 6457, 222), (6458, 6458, 230),
  (6459, 6459, 220), (6679, 6679, 230), (6680, 6680, 220), (6752, 6752, 9), (6773, 6780, 230),
  (6783, 6783, 220), (6832, 6836, 230), (6837, 6842, 220), (6843, 6844, 230), (6845, 6845, 220),
  (6847, 6848, 220), (6849, 6850, 230), (6851, 6852, 220), (6853, 6857, 230), (6858, 6858, 220),
  (6859, 6862, 230), (6964, 6964, 7), (6980, 6980, 9), (7019, 7019, 230), (7020, 7020, 220),
  (7021, 7027, 230), (7082, 7083, 9), (7142, 7142, 7), (7154, 7155, 9), (7223, 7223, 7),
  (7376, 7378, 230), (7380, 7380, 1), (7381, 7385, 220), (7386, 7387, 230), (7388, 7391, 220),
  (7392, 7392, 230), (7394, 7400, 1), (7405, 7405, 220), (7412, 7412, 230), (7416, 7417, 230),
  (7616, 7617, 230), (7618, 7618, 220), (7619, 7625, 230), (7626, 7626, 220), (7627, 7628, 230),
  (7629, 7629, 234), (7630, 7630, 214), (7631, 7631, 220), (7632, 7632, 202), (7633, 7669, 230),
  (7670, 7670, 232), (7671, 7672, 228), (7673, 7673, 220), (7674, 7674, 218), (7675, 7675, 230),
  (7676, 7676, 233), (7677, 7677, 220), (7678, 7678, 230), (7679, 7679, 220), (8400, 8401, 230),
  (8402, 8403, 1), (8404, 8407, 230), (8408, 8410, 1), (8411, 8412, 230), (8417, 8417, 230),
  (8421, 8422, 1), (8423, 8423, 230), (8424, 8424, 220), (8425, 8425, 230), (8426, 8427, 1),
  (8428, 8431, 220), (8432, 8432, 230), (11503, 11505, 230), (11647, 11647, 9), (11744, 11775, 230),
  (12330, 12330, 218), (12331, 12331, 228), (12332, 12332, 232), (12333, 12333, 222),
  (12334, 12335, 224), (12441, 12442, 8), (42607, 42607, 230), (42612, 42621, 230),
  (42654, 42655, 230), (42736, 42737, 230), (43014, 43014, 9), (43052, 43052, 9), (43204, 43204, 9),
  (43232, 43249, 230), (43307, 43309, 220), (43347, 43347, 9), (43443, 43443, 7), (43456, 43456, 9),
  (43696, 43696, 230), (43698, 43699, 230), (43700, 43700, 220), (43703, 43704, 230),
  (43710, 43711, 230), (43713, 43713, 230), (43766, 43766, 9), (44013, 44013, 9),
  (64286, 64286, 26), (65056, 65062, 230), (65063, 65069, 220), (65070, 65071, 230),
  (66045, 66045, 220), (66272, 66272, 220), (66422, 66426, 230), (68109, 68109, 220),
  (68111, 68111, 230), (68152, 68152, 230), (68153, 68153, 1), (68154, 68154, 220),
  (68159, 68159, 9), (68325, 68325, 230), (68326, 68326, 220), (68900, 68903, 230),
  (69291, 69292, 230), (69446, 69447, 220), (69448, 69450, 230), (69451, 69451, 220),
  (69452, 69452, 230), (69453, 69456, 220), (69506, 69506, 230), (69507, 69507, 220),
  (69508, 69508, 230), (69509, 69509, 220), (69702, 69702, 9), (69744, 69744, 9), (69759, 69759, 9),
  (69817, 69817, 9), (69818, 69818, 7), (69888, 69890, 230), (69939, 69940, 9), (70003, 70003, 7),
  (70080, 70080, 9), (70090, 70090, 7), (70197, 70197, 9), (70198, 70198, 7), (70377, 70377, 7),
  (70378, 70378, 9), (70459, 70460, 7), (70477, 70477, 9), (70502, 70508, 230), (70512, 70516, 230),
  (70722, 70722, 9), (70726, 70726, 7), (70750, 70750, 230), (70850, 70850, 9), (70851, 70851, 7),
  (71103, 71103, 9), (71104, 71104, 7), (71231, 71231, 9), (71350, 71350, 9), (71351, 71351, 7),
  (71467, 71467, 9), (71737, 71737, 9), (71738, 71738, 7), (71997, 71998, 9), (72003, 72003, 7),
  (72160, 72160, 9), (72244, 72244, 9), (72263, 72263, 9), (72345, 72345, 9), (72767, 72767, 9),
  (73026, 73026, 7), (73028, 73029, 9), (73111, 73111, 9), (92912, 92916, 1), (92976, 92982, 230),
  (94192, 94193, 6), (113822, 113822, 1), (119141, 119142, 216), (119143, 119145, 1),
  (119149, 119149, 226), (119150, 119154, 216), (119163, 119170, 220), (119173, 119177, 230),
  (119178, 119179, 220), (119210, 119213, 230), (119362, 119364, 230), (122880, 122886, 230),
  (122888, 122904, 230), (122907, 122913, 230), (122915, 122916, 230), (122918, 122922, 230),
  (123184, 123190, 230), (123566, 123566, 230), (123628, 123631, 230), (125136, 125142, 220),
  (125252, 125257, 230), (125258, 125258, 7)]

/-- Characters that composed text does not hold, as others stand for them. -/
def replacedRanges : Array (Nat × Nat) := #[
  (832, 833), (835, 836), (884, 884), (894, 894), (903, 903), (2392, 2399), (2524, 2525),
  (2527, 2527), (2611, 2611), (2614, 2614), (2649, 2651), (2654, 2654), (2908, 2909), (3907, 3907),
  (3917, 3917), (3922, 3922), (3927, 3927), (3932, 3932), (3945, 3945), (3955, 3955), (3957, 3958),
  (3960, 3960), (3969, 3969), (3987, 3987), (3997, 3997), (4002, 4002), (4007, 4007), (4012, 4012),
  (4025, 4025), (8049, 8049), (8051, 8051), (8053, 8053), (8055, 8055), (8057, 8057), (8059, 8059),
  (8061, 8061), (8123, 8123), (8126, 8126), (8137, 8137), (8139, 8139), (8147, 8147), (8155, 8155),
  (8163, 8163), (8171, 8171), (8174, 8175), (8185, 8185), (8187, 8187), (8189, 8189), (8192, 8193),
  (8486, 8486), (8490, 8491), (9001, 9002), (10972, 10972), (63744, 64013), (64016, 64016),
  (64018, 64018), (64021, 64030), (64032, 64032), (64034, 64034), (64037, 64038), (64042, 64109),
  (64112, 64217), (64285, 64285), (64287, 64287), (64298, 64310), (64312, 64316), (64318, 64318),
  (64320, 64321), (64323, 64324), (64326, 64334), (119134, 119140), (119227, 119232),
  (194560, 195101)]

/-- Marks, each with the characters that it makes one character with, and that character. -/
def compositions : Array (Nat × List (Nat × Nat)) := #[
  (768, [(65, 192), (69, 200), (73, 204), (78, 504), (79, 210), (85, 217), (87, 7808), (89, 7922),
    (97, 224), (101, 232), (105, 236), (110, 505), (111, 242), (117, 249), (119, 7809),
    (121, 7923), (168, 8173), (194, 7846), (202, 7872), (212, 7890), (220, 475), (226, 7847),
    (234, 7873), (244, 7891), (252, 476), (258, 7856), (259, 7857), (274, 7700), (275, 7701),
    (332, 7760), (333, 7761), (416, 7900), (417, 7901), (431, 7914), (432, 7915), (913, 8122),
    (917, 8136), (919, 8138), (921, 8154), (927, 8184), (933, 8170), (937, 8186), (945, 8048),
    (949, 8050), (951, 8052), (953, 8054), (959, 8056), (965, 8058), (969, 8060), (970, 8146),
    (971, 8162), (1045, 1024), (1048, 1037), (1077, 1104), (1080, 1117), (7936, 7938),
    (7937, 7939), (7944, 7946), (7945, 7947), (7952, 7954), (7953, 7955), (7960, 7962),
    (7961, 7963), (7968, 7970), (7969, 7971), (7976, 7978), (7977, 7979), (7984, 7986),
    (7985, 7987), (7992, 7994), (7993, 7995), (8000, 8002), (8001, 8003), (8008, 8010),
    (8009, 8011), (8016, 8018), (8017, 8019), (8025, 8027), (8032, 8034), (8033, 8035),
    (8040, 8042), (8041, 8043), (8127, 8141), (8190, 8157)]),
  (769, [(65, 193), (67, 262), (69, 201), (71, 500), (73, 205), (75, 7728), (76, 313), (77, 7742),
    (78, 323), (79, 211), (80, 7764), (82, 340), (83, 346), (85, 218), (87, 7810), (89, 221),
    (90, 377), (97, 225), (99, 263), (101, 233), (103, 501), (105, 237), (107, 7729), (108, 314),
    (109, 7743), (110, 324), (111, 243), (112, 7765), (114, 341), (115, 347), (117, 250),
    (119, 7811), (121, 253), (122, 378), (168, 901), (194, 7844), (197, 506), (198, 508),
    (199, 7688), (202, 7870), (207, 7726), (212, 7888), (213, 7756), (216, 510), (220, 471),
    (226, 7845), (229, 507), (230, 509), (231, 7689), (234, 7871), (239, 7727), (244, 7889),
    (245, 7757), (248, 511), (252, 472), (258, 7854), (259, 7855), (274, 7702), (275, 7703),
    (332, 7762), (333, 7763), (360, 7800), (361, 7801), (416, 7898), (417, 7899), (431, 7912),
    (432, 7913), (913, 902), (917, 904), (919, 905), (921, 906), (927, 908), (933, 910),
    (937, 911), (945, 940), (949, 941), (951, 942), (953, 943), (959, 972), (965, 973),
    (969, 974), (970, 912), (971, 944), (978, 979), (1043, 1027), (1050, 1036), (1075, 1107),
    (1082, 1116), (7936, 7940), (7937, 7941), (7944, 7948), (7945, 7949), (7952, 7956),
    (7953, 7957), (7960, 7964), (7961, 7965), (7968, 7972), (7969, 7973), (7976, 7980),
    (7977, 7981), (7984, 7988), (7985, 7989), (7992, 7996), (7993, 7997), (8000, 8004),
    (8001, 8005), (8008, 8012), (8009, 8013), (8016, 8020), (8017, 8021), (8025, 8029),
    (8032, 8036), (8033, 8037), (8040, 8044), (8041, 8045), (8127, 8142), (8190, 8158)]),
  (770, [(65, 194), (67, 264), (69, 202), (71, 284), (72, 292), (73, 206), (74, 308), (79, 212),
    (83, 348), (85, 219), (87, 372), (89, 374), (90, 7824), (97, 226), (99, 265), (101, 234),
    (103, 285), (104, 293), (105, 238), (106, 309), (111, 244), (115, 349), (117, 251),
    (119, 373), (121, 375), (122, 7825), (7840, 7852), (7841, 7853), (7864, 7878), (7865, 7879),
    (7884, 7896), (7885, 7897)]),
  (771, [(65, 195), (69, 7868), (73, 296), (78, 209), (79, 213), (85, 360), (86, 7804),
    (89, 7928), (97, 227), (101, 7869), (105, 297), (110, 241), (111, 245), (117, 361),
    (118, 7805), (121, 7929), (194, 7850), (202, 7876), (212, 7894), (226, 7851), (234, 7877),
    (244, 7895), (258, 7860), (259, 7861), (416, 7904), (417, 7905), (431, 7918), (432, 7919)]),
  (772, [(65, 256), (69, 274), (71, 7712), (73, 298), (79, 332), (85, 362), (89, 562), (97, 257),
    (101, 275), (103, 7713), (105, 299), (111, 333), (117, 363), (121, 563), (196, 478),
    (198, 482), (213, 556), (214, 554), (220, 469), (228, 479), (230, 483), (245, 557),
    (246, 555), (252, 470), (490, 492), (491, 493), (550, 480), (551, 481), (558, 560),
    (559, 561), (913, 8121), (921, 8153), (933, 8169), (945, 8113), (953, 8145), (965, 8161),
    (1048, 1250), (1059, 1262), (1080, 1251), (1091, 1263), (7734, 7736), (7735, 7737),
    (7770, 7772), (7771, 7773)]),
  (774, [(65, 258), (69, 276), (71, 286), (73, 300), (79, 334), (85, 364), (97, 259), (101, 277),
    (103, 287), (105, 301), (111, 335), (117, 365), (552, 7708), (553, 7709), (913, 8120),
    (921, 8152), (933, 8168), (945, 8112), (953, 8144), (965, 8160), (1040, 1232), (1045, 1238),
    (1046, 1217), (1048, 1049), (1059, 1038), (1072, 1233), (1077, 1239), (1078, 1218),
    (1080, 1081), (1091, 1118), (7840, 7862), (7841, 7863)]),
  (775, [(65, 550), (66, 7682), (67, 266), (68, 7690), (69, 278), (70, 7710), (71, 288),
    (72, 7714), (73, 304), (77, 7744), (78, 7748), (79, 558), (80, 7766), (82, 7768), (83, 7776),
    (84, 7786), (87, 7814), (88, 7818), (89, 7822), (90, 379), (97, 551), (98, 7683), (99, 267),
    (100, 7691), (101, 279), (102, 7711), (103, 289), (104, 7715), (109, 7745), (110, 7749),
    (111, 559), (112, 7767), (114, 7769), (115, 7777), (116, 7787), (119, 7815), (120, 7819),
    (121, 7823), (122, 380), (346, 7780), (347, 7781), (352, 7782), (353, 7783), (383, 7835),
    (7778, 7784), (7779, 7785)]),
  (776, [(65, 196), (69, 203), (72, 7718), (73, 207), (79, 214), (85, 220), (87, 7812),
    (88, 7820), (89, 376), (97, 228), (101, 235), (104, 7719), (105, 239), (111, 246),
    (116, 7831), (117, 252), (119, 7813), (120, 7821), (121, 255), (213, 7758), (245, 7759),
    (362, 7802), (363, 7803), (921, 938), (933, 939), (953, 970), (965, 971), (978, 980),
    (1030, 1031), (1040, 1234), (1045, 1025), (1046, 1244), (1047, 1246), (1048, 1252),
    (1054, 1254), (1059, 1264), (1063, 1268), (1067, 1272), (1069, 1260), (1072, 1235),
    (1077, 1105), (1078, 1245), (1079, 1247), (1080, 1253), (1086, 1255), (1091, 1265),
    (1095, 1269), (1099, 1273), (1101, 1261), (1110, 1111), (1240, 1242), (1241, 1243),
    (1256, 1258), (1257, 1259)]),
  (777, [(65, 7842), (69, 7866), (73, 7880), (79, 7886), (85, 7910), (89, 7926), (97, 7843),
    (101, 7867), (105, 7881), (111, 7887), (117, 7911), (121, 7927), (194, 7848), (202, 7874),
    (212, 7892), (226, 7849), (234, 7875), (244, 7893), (258, 7858), (259, 7859), (416, 7902),
    (417, 7903), (431, 7916), (432, 7917)]),
  (778, [(65, 197), (85, 366), (97, 229), (117, 367), (119, 7832), (121, 7833)]),
  (779, [(79, 336), (85, 368), (111, 337), (117, 369), (1059, 1266), (1091, 1267)]),
  (780, [(65, 461), (67, 268), (68, 270), (69, 282), (71, 486), (72, 542), (73, 463), (75, 488),
    (76, 317), (78, 327), (79, 465), (82, 344), (83, 352), (84, 356), (85, 467), (90, 381),
    (97, 462), (99, 269), (100, 271), (101, 283), (103, 487), (104, 543), (105, 464), (106, 496),
    (107, 489), (108, 318), (110, 328), (111, 466), (114, 345), (115, 353), (116, 357),
    (117, 468), (122, 382), (220, 473), (252, 474), (439, 494), (658, 495)]),
  (783, [(65, 512), (69, 516), (73, 520), (79, 524), (82, 528), (85, 532), (97, 513), (101, 517),
    (105, 521), (111, 525), (114, 529), (117, 533), (1140, 1142), (1141, 1143)]),
  (785, [(65, 514), (69, 518), (73, 522), (79, 526), (82, 530), (85, 534), (97, 515), (101, 519),
    (105, 523), (111, 527), (114, 531), (117, 535)]),
  (787, [(913, 7944), (917, 7960), (919, 7976), (921, 7992), (927, 8008), (937, 8040),
    (945, 7936), (949, 7952), (951, 7968), (953, 7984), (959, 8000), (961, 8164), (965, 8016),
    (969, 8032)]),
  (788, [(913, 7945), (917, 7961), (919, 7977), (921, 7993), (927, 8009), (929, 8172),
    (933, 8025), (937, 8041), (945, 7937), (949, 7953), (951, 7969), (953, 7985), (959, 8001),
    (961, 8165), (965, 8017), (969, 8033)]),
  (795, [(79, 416), (85, 431), (111, 417), (117, 432)]),
  (803, [(65, 7840), (66, 7684), (68, 7692), (69, 7864), (72, 7716), (73, 7882), (75, 7730),
    (76, 7734), (77, 7746), (78, 7750), (79, 7884), (82, 7770), (83, 7778), (84, 7788),
    (85, 7908), (86, 7806), (87, 7816), (89, 7924), (90, 7826), (97, 7841), (98, 7685),
    (100, 7693), (101, 7865), (104, 7717), (105, 7883), (107, 7731), (108, 7735), (109, 7747),
    (110, 7751), (111, 7885), (114, 7771), (115, 7779), (116, 7789), (117, 7909), (118, 7807),
    (119, 7817), (121, 7925), (122, 7827), (416, 7906), (417, 7907), (431, 7920), (432, 7921)]),
  (804, [(85, 7794), (117, 7795)]),
  (805, [(65, 7680), (97, 7681)]),
  (806, [(83, 536), (84, 538), (115, 537), (116, 539)]),
  (807, [(67, 199), (68, 7696), (69, 552), (71, 290), (72, 7720), (75, 310), (76, 315), (78, 325),
    (82, 342), (83, 350), (84, 354), (99, 231), (100, 7697), (101, 553), (103, 291), (104, 7721),
    (107, 311), (108, 316), (110, 326), (114, 343), (115, 351), (116, 355)]),
  (808, [(65, 260), (69, 280), (73, 302), (79, 490), (85, 370), (97, 261), (101, 281), (105, 303),
    (111, 491), (117, 371)]),
  (813, [(68, 7698), (69, 7704), (76, 7740), (78, 7754), (84, 7792), (85, 7798), (100, 7699),
    (101, 7705), (108, 7741), (110, 7755), (116, 7793), (117, 7799)]),
  (814, [(72, 7722), (104, 7723)]),
  (816, [(69, 7706), (73, 7724), (85, 7796), (101, 7707), (105, 7725), (117, 7797)]),
  (817, [(66, 7686), (68, 7694), (75, 7732), (76, 7738), (78, 7752), (82, 7774), (84, 7790),
    (90, 7828), (98, 7687), (100, 7695), (104, 7830), (107, 7733), (108, 7739), (110, 7753),
    (114, 7775), (116, 7791), (122, 7829)]),
  (824, [(60, 8814), (61, 8800), (62, 8815), (8592, 8602), (8594, 8603), (8596, 8622),
    (8656, 8653), (8658, 8655), (8660, 8654), (8707, 8708), (8712, 8713), (8715, 8716),
    (8739, 8740), (8741, 8742), (8764, 8769), (8771, 8772), (8773, 8775), (8776, 8777),
    (8781, 8813), (8801, 8802), (8804, 8816), (8805, 8817), (8818, 8820), (8819, 8821),
    (8822, 8824), (8823, 8825), (8826, 8832), (8827, 8833), (8828, 8928), (8829, 8929),
    (8834, 8836), (8835, 8837), (8838, 8840), (8839, 8841), (8849, 8930), (8850, 8931),
    (8866, 8876), (8872, 8877), (8873, 8878), (8875, 8879), (8882, 8938), (8883, 8939),
    (8884, 8940), (8885, 8941)]),
  (834, [(168, 8129), (945, 8118), (951, 8134), (953, 8150), (965, 8166), (969, 8182),
    (970, 8151), (971, 8167), (7936, 7942), (7937, 7943), (7944, 7950), (7945, 7951),
    (7968, 7974), (7969, 7975), (7976, 7982), (7977, 7983), (7984, 7990), (7985, 7991),
    (7992, 7998), (7993, 7999), (8016, 8022), (8017, 8023), (8025, 8031), (8032, 8038),
    (8033, 8039), (8040, 8046), (8041, 8047), (8127, 8143), (8190, 8159)]),
  (837, [(913, 8124), (919, 8140), (937, 8188), (940, 8116), (942, 8132), (945, 8115),
    (951, 8131), (969, 8179), (974, 8180), (7936, 8064), (7937, 8065), (7938, 8066), (7939, 8067),
    (7940, 8068), (7941, 8069), (7942, 8070), (7943, 8071), (7944, 8072), (7945, 8073),
    (7946, 8074), (7947, 8075), (7948, 8076), (7949, 8077), (7950, 8078), (7951, 8079),
    (7968, 8080), (7969, 8081), (7970, 8082), (7971, 8083), (7972, 8084), (7973, 8085),
    (7974, 8086), (7975, 8087), (7976, 8088), (7977, 8089), (7978, 8090), (7979, 8091),
    (7980, 8092), (7981, 8093), (7982, 8094), (7983, 8095), (8032, 8096), (8033, 8097),
    (8034, 8098), (8035, 8099), (8036, 8100), (8037, 8101), (8038, 8102), (8039, 8103),
    (8040, 8104), (8041, 8105), (8042, 8106), (8043, 8107), (8044, 8108), (8045, 8109),
    (8046, 8110), (8047, 8111), (8048, 8114), (8052, 8130), (8060, 8178), (8118, 8119),
    (8134, 8135), (8182, 8183)]),
  (1619, [(1575, 1570)]),
  (1620, [(1575, 1571), (1608, 1572), (1610, 1574), (1729, 1730), (1746, 1747), (1749, 1728)]),
  (1621, [(1575, 1573)]),
  (2364, [(2344, 2345), (2352, 2353), (2355, 2356)]),
  (2494, [(2503, 2507)]),
  (2519, [(2503, 2508)]),
  (2878, [(2887, 2891)]),
  (2902, [(2887, 2888)]),
  (2903, [(2887, 2892)]),
  (3006, [(3014, 3018), (3015, 3019)]),
  (3031, [(2962, 2964), (3014, 3020)]),
  (3158, [(3142, 3144)]),
  (3266, [(3270, 3274)]),
  (3285, [(3263, 3264), (3270, 3271), (3274, 3275)]),
  (3286, [(3270, 3272)]),
  (3390, [(3398, 3402), (3399, 3403)]),
  (3415, [(3398, 3404)]),
  (3530, [(3545, 3546), (3548, 3549)]),
  (3535, [(3545, 3548)]),
  (3551, [(3545, 3550)]),
  (4142, [(4133, 4134)]),
  (6965, [(6917, 6918), (6919, 6920), (6921, 6922), (6923, 6924), (6925, 6926), (6929, 6930),
    (6970, 6971), (6972, 6973), (6974, 6976), (6975, 6977), (6978, 6979)]),
  (12441, [(12358, 12436), (12363, 12364), (12365, 12366), (12367, 12368), (12369, 12370),
    (12371, 12372), (12373, 12374), (12375, 12376), (12377, 12378), (12379, 12380),
    (12381, 12382), (12383, 12384), (12385, 12386), (12388, 12389), (12390, 12391),
    (12392, 12393), (12399, 12400), (12402, 12403), (12405, 12406), (12408, 12409),
    (12411, 12412), (12445, 12446), (12454, 12532), (12459, 12460), (12461, 12462),
    (12463, 12464), (12465, 12466), (12467, 12468), (12469, 12470), (12471, 12472),
    (12473, 12474), (12475, 12476), (12477, 12478), (12479, 12480), (12481, 12482),
    (12484, 12485), (12486, 12487), (12488, 12489), (12495, 12496), (12498, 12499),
    (12501, 12502), (12504, 12505), (12507, 12508), (12527, 12535), (12528, 12536),
    (12529, 12537), (12530, 12538), (12541, 12542)]),
  (12442, [(12399, 12401), (12402, 12404), (12405, 12407), (12408, 12410), (12411, 12413),
    (12495, 12497), (12498, 12500), (12501, 12503), (12504, 12506), (12507, 12509)]),
  (69818, [(69785, 69786), (69787, 69788), (69797, 69803)]),
  (69927, [(69937, 69934), (69938, 69935)]),
  (70462, [(70471, 70475)]),
  (70487, [(70471, 70476)]),
  (70832, [(70841, 70844)]),
  (70842, [(70841, 70843)]),
  (70845, [(70841, 70846)]),
  (71087, [(71096, 71098), (71097, 71099)]),
  (71984, [(71989, 71992)])]

end Storybind.Web
