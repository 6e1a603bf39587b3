/-!
The writing direction of characters in domain names.
-/

namespace TableExchange.Http.Domain

/-- How a character takes part in the direction of a text. Whatever the tables leave out runs from
left to right. -/
inductive Direction
  | left
  | right
  | arabic
  | number
  | arabicNumber
  | sign
  | separator
  | terminator
  | neutral
  | boundary
  | nonspacing
  | other
deriving DecidableEq, Repr

/-- Ranges of characters that do not run from left to right. -/
def directionRanges : List (Nat × Nat × Direction) := [
  (0, 8, .boundary), (9, 9, .other), (10, 10, .other), (11, 11, .other), (12, 12, .other),
  (13, 13, .other), (14, 27, .boundary), (28, 30, .other), (31, 31, .other), (32, 32, .other),
  (33, 34, .neutral), (35, 37, .terminator), (38, 42, .neutral), (43, 43, .sign),
  (44, 44, .separator), (45, 45, .sign), (46, 47, .separator), (48, 57, .number),
  (58, 58, .separator), (59, 96, .neutral), (123, 126, .neutral), (127, 127, .boundary),
  (161, 161, .neutral), (162, 165, .terminator), (166, 174, .neutral), (176, 177, .terminator),
  (182, 215, .neutral), (247, 247, .neutral), (697, 698, .neutral), (706, 719, .neutral),
  (722, 749, .neutral), (751, 767, .neutral), (768, 879, .nonspacing), (885, 885, .neutral),
  (1014, 1014, .neutral), (1155, 1161, .nonspacing), (1418, 1422, .neutral),
  (1423, 1423, .terminator), (1425, 1469, .nonspacing), (1470, 1470, .right),
  (1471, 1471, .nonspacing), (1472, 1472, .right), (1473, 1474, .nonspacing),
  (1475, 1475, .right), (1476, 1477, .nonspacing), (1478, 1478, .right),
  (1479, 1479, .nonspacing), (1488, 1524, .right), (1542, 1543, .neutral), (1544, 1544, .arabic),
  (1545, 1546, .terminator), (1547, 1547, .arabic), (1548, 1548, .separator),
  (1549, 1549, .arabic), (1550, 1551, .neutral), (1552, 1562, .nonspacing),
  (1563, 1610, .arabic), (1611, 1631, .nonspacing), (1632, 1641, .arabicNumber),
  (1642, 1642, .terminator), (1643, 1644, .arabicNumber), (1645, 1647, .arabic),
  (1648, 1648, .nonspacing), (1649, 1749, .arabic), (1750, 1756, .nonspacing),
  (1758, 1758, .neutral), (1759, 1764, .nonspacing), (1765, 1766, .arabic),
  (1767, 1768, .nonspacing), (1769, 1769, .neutral), (1770, 1773, .nonspacing),
  (1774, 1775, .arabic), (1776, 1785, .number), (1786, 1808, .arabic), (1809, 1809, .nonspacing),
  (1810, 1839, .arabic), (1840, 1866, .nonspacing), (1869, 1957, .arabic),
  (1958, 1968, .nonspacing), (1969, 1969, .arabic), (1984, 2026, .right),
  (2027, 2035, .nonspacing), (2036, 2037, .right), (2038, 2041, .neutral), (2042, 2042, .right),
  (2045, 2045, .nonspacing), (2046, 2069, .right), (2070, 2073, .nonspacing),
  (2074, 2074, .right), (2075, 2083, .nonspacing), (2084, 2084, .right),
  (2085, 2087, .nonspacing), (2088, 2088, .right), (2089, 2093, .nonspacing),
  (2096, 2136, .right), (2137, 2139, .nonspacing), (2142, 2142, .right), (2144, 2191, .arabic),
  (2199, 2207, .nonspacing), (2208, 2249, .arabic), (2250, 2306, .nonspacing),
  (2362, 2362, .nonspacing), (2364, 2364, .nonspacing), (2369, 2376, .nonspacing),
  (2381, 2381, .nonspacing), (2385, 2391, .nonspacing), (2402, 2403, .nonspacing),
  (2433, 2433, .nonspacing), (2492, 2492, .nonspacing), (2497, 2500, .nonspacing),
  (2509, 2509, .nonspacing), (2530, 2531, .nonspacing), (2546, 2547, .terminator),
  (2555, 2555, .terminator), (2558, 2562, .nonspacing), (2620, 2620, .nonspacing),
  (2625, 2641, .nonspacing), (2672, 2673, .nonspacing), (2677, 2677, .nonspacing),
  (2689, 2690, .nonspacing), (2748, 2748, .nonspacing), (2753, 2760, .nonspacing),
  (2765, 2765, .nonspacing), (2786, 2787, .nonspacing), (2801, 2801, .terminator),
  (2810, 2817, .nonspacing), (2876, 2876, .nonspacing), (2879, 2879, .nonspacing),
  (2881, 2884, .nonspacing), (2893, 2902, .nonspacing), (2914, 2915, .nonspacing),
  (2946, 2946, .nonspacing), (3008, 3008, .nonspacing), (3021, 3021, .nonspacing),
  (3059, 3064, .neutral), (3065, 3065, .terminator), (3066, 3066, .neutral),
  (3072, 3072, .nonspacing), (3076, 3076, .nonspacing), (3132, 3132, .nonspacing),
  (3134, 3136, .nonspacing), (3142, 3158, .nonspacing), (3170, 3171, .nonspacing),
  (3192, 3198, .neutral), (3201, 3201, .nonspacing), (3260, 3260, .nonspacing),
  (3276, 3277, .nonspacing), (3298, 3299, .nonspacing), (3328, 3329, .nonspacing),
  (3387, 3388, .nonspacing), (3393, 3396, .nonspacing), (3405, 3405, .nonspacing),
  (3426, 3427, .nonspacing), (3457, 3457, .nonspacing), (3530, 3530, .nonspacing),
  (3538, 3542, .nonspacing), (3633, 3633, .nonspacing), (3636, 3642, .nonspacing),
  (3647, 3647, .terminator), (3655, 3662, .nonspacing), (3761, 3761, .nonspacing),
  (3764, 3772, .nonspacing), (3784, 3790, .nonspacing), (3864, 3865, .nonspacing),
  (3893, 3893, .nonspacing), (3895, 3895, .nonspacing), (3897, 3897, .nonspacing),
  (3898, 3901, .neutral), (3953, 3966, .nonspacing), (3968, 3972, .nonspacing),
  (3974, 3975, .nonspacing), (3981, 4028, .nonspacing), (4038, 4038, .nonspacing),
  (4141, 4144, .nonspacing), (4146, 4151, .nonspacing), (4153, 4154, .nonspacing),
  (4157, 4158, .nonspacing), (4184, 4185, .nonspacing), (4190, 4192, .nonspacing),
  (4209, 4212, .nonspacing), (4226, 4226, .nonspacing), (4229, 4230, .nonspacing),
  (4237, 4237, .nonspacing), (4253, 4253, .nonspacing), (4957, 4959, .nonspacing),
  (5008, 5017, .neutral), (5120, 5120, .neutral), (5787, 5788, .neutral),
  (5906, 5908, .nonspacing), (5938, 5939, .nonspacing), (5970, 5971, .nonspacing),
  (6002, 6003, .nonspacing), (6071, 6077, .nonspacing), (6086, 6086, .nonspacing),
  (6089, 6099, .nonspacing), (6107, 6107, .terminator), (6109, 6109, .nonspacing),
  (6128, 6154, .neutral), (6277, 6278, .nonspacing), (6313, 6313, .nonspacing),
  (6432, 6434, .nonspacing), (6439, 6440, .nonspacing), (6450, 6450, .nonspacing),
  (6457, 6459, .nonspacing), (6464, 6469, .neutral), (6622, 6655, .neutral),
  (6679, 6680, .nonspacing), (6683, 6683, .nonspacing), (6742, 6742, .nonspacing),
  (6744, 6752, .nonspacing), (6754, 6754, .nonspacing), (6757, 6764, .nonspacing),
  (6771, 6783, .nonspacing), (6832, 6915, .nonspacing), (6964, 6964, .nonspacing),
  (6966, 6970, .nonspacing), (6972, 6972, .nonspacing), (6978, 6978, .nonspacing),
  (6990, 6991, .neutral), (7019, 7027, .nonspacing), (7039, 7039, .neutral),
  (7040, 7041, .nonspacing), (7074, 7077, .nonspacing), (7080, 7081, .nonspacing),
  (7083, 7085, .nonspacing), (7142, 7142, .nonspacing), (7144, 7145, .nonspacing),
  (7149, 7149, .nonspacing), (7151, 7153, .nonspacing), (7212, 7219, .nonspacing),
  (7222, 7223, .nonspacing), (7376, 7378, .nonspacing), (7380, 7392, .nonspacing),
  (7394, 7400, .nonspacing), (7405, 7405, .nonspacing), (7412, 7412, .nonspacing),
  (7416, 7417, .nonspacing), (7616, 7679, .nonspacing), (8204, 8205, .boundary),
  (8208, 8231, .neutral), (8240, 8242, .terminator), (8245, 8259, .neutral),
  (8260, 8260, .separator), (8261, 8286, .neutral), (8352, 8385, .terminator),
  (8400, 8432, .nonspacing), (8452, 8489, .neutral), (8494, 8494, .terminator),
  (8506, 8525, .neutral), (8586, 8721, .neutral), (8722, 8722, .sign), (8723, 8723, .terminator),
  (8724, 9013, .neutral), (9083, 9108, .neutral), (9110, 9899, .neutral),
  (9901, 10239, .neutral), (10496, 11263, .neutral), (11493, 11498, .neutral),
  (11503, 11505, .nonspacing), (11513, 11519, .neutral), (11647, 11647, .nonspacing),
  (11744, 11775, .nonspacing), (11776, 12292, .neutral), (12296, 12320, .neutral),
  (12330, 12333, .nonspacing), (12336, 12336, .neutral), (12343, 12343, .neutral),
  (12349, 12351, .neutral), (12441, 12442, .nonspacing), (12448, 12448, .neutral),
  (12539, 12539, .neutral), (12736, 12773, .neutral), (19904, 19967, .neutral),
  (42128, 42182, .neutral), (42509, 42511, .neutral), (42607, 42610, .nonspacing),
  (42611, 42611, .neutral), (42612, 42621, .nonspacing), (42622, 42623, .neutral),
  (42654, 42655, .nonspacing), (42736, 42737, .nonspacing), (42752, 42785, .neutral),
  (42888, 42888, .neutral), (43010, 43010, .nonspacing), (43014, 43014, .nonspacing),
  (43019, 43019, .nonspacing), (43045, 43046, .nonspacing), (43048, 43051, .neutral),
  (43052, 43052, .nonspacing), (43064, 43065, .terminator), (43124, 43127, .neutral),
  (43204, 43205, .nonspacing), (43232, 43249, .nonspacing), (43263, 43263, .nonspacing),
  (43302, 43309, .nonspacing), (43335, 43345, .nonspacing), (43392, 43394, .nonspacing),
  (43443, 43443, .nonspacing), (43446, 43449, .nonspacing), (43452, 43453, .nonspacing),
  (43493, 43493, .nonspacing), (43561, 43566, .nonspacing), (43569, 43570, .nonspacing),
  (43573, 43574, .nonspacing), (43587, 43587, .nonspacing), (43596, 43596, .nonspacing),
  (43644, 43644, .nonspacing), (43696, 43696, .nonspacing), (43698, 43700, .nonspacing),
  (43703, 43704, .nonspacing), (43710, 43711, .nonspacing), (43713, 43713, .nonspacing),
  (43756, 43757, .nonspacing), (43766, 43766, .nonspacing), (43882, 43883, .neutral),
  (44005, 44005, .nonspacing), (44008, 44008, .nonspacing), (44013, 44013, .nonspacing),
  (64286, 64286, .nonspacing), (64434, 64450, .arabic), (64451, 65023, .neutral),
  (65056, 65071, .nonspacing), (65093, 65094, .neutral), (65139, 65139, .arabic),
  (65793, 65793, .neutral), (65856, 65932, .neutral), (65936, 65952, .neutral),
  (66045, 66045, .nonspacing), (66272, 66272, .nonspacing), (66273, 66299, .number),
  (66422, 66426, .nonspacing), (67584, 67867, .right), (67871, 67871, .neutral),
  (67872, 68096, .right), (68097, 68111, .nonspacing), (68112, 68149, .right),
  (68152, 68159, .nonspacing), (68160, 68324, .right), (68325, 68326, .nonspacing),
  (68331, 68405, .right), (68409, 68415, .neutral), (68416, 68863, .right),
  (68864, 68899, .arabic), (68900, 68903, .nonspacing), (68912, 68937, .arabicNumber),
  (68938, 68943, .right), (68969, 68973, .nonspacing), (68974, 68974, .neutral),
  (68975, 69007, .right), (69216, 69246, .arabicNumber), (69248, 69289, .right),
  (69291, 69292, .nonspacing), (69293, 69297, .right), (69314, 69319, .arabic),
  (69328, 69328, .neutral), (69329, 69336, .arabic), (69370, 69375, .nonspacing),
  (69376, 69415, .right), (69424, 69445, .arabic), (69446, 69456, .nonspacing),
  (69457, 69465, .arabic), (69488, 69505, .right), (69506, 69509, .nonspacing),
  (69510, 69622, .right), (69633, 69633, .nonspacing), (69688, 69702, .nonspacing),
  (69714, 69733, .neutral), (69744, 69744, .nonspacing), (69747, 69748, .nonspacing),
  (69759, 69761, .nonspacing), (69811, 69814, .nonspacing), (69817, 69818, .nonspacing),
  (69826, 69826, .nonspacing), (69888, 69890, .nonspacing), (69927, 69931, .nonspacing),
  (69933, 69940, .nonspacing), (70003, 70003, .nonspacing), (70016, 70017, .nonspacing),
  (70070, 70078, .nonspacing), (70089, 70092, .nonspacing), (70095, 70095, .nonspacing),
  (70191, 70193, .nonspacing), (70196, 70196, .nonspacing), (70198, 70199, .nonspacing),
  (70206, 70206, .nonspacing), (70209, 70209, .nonspacing), (70367, 70367, .nonspacing),
  (70371, 70378, .nonspacing), (70400, 70401, .nonspacing), (70459, 70460, .nonspacing),
  (70464, 70464, .nonspacing), (70502, 70516, .nonspacing), (70587, 70592, .nonspacing),
  (70606, 70606, .nonspacing), (70608, 70608, .nonspacing), (70610, 70610, .nonspacing),
  (70625, 70626, .nonspacing), (70712, 70719, .nonspacing), (70722, 70724, .nonspacing),
  (70726, 70726, .nonspacing), (70750, 70750, .nonspacing), (70835, 70840, .nonspacing),
  (70842, 70842, .nonspacing), (70847, 70848, .nonspacing), (70850, 70851, .nonspacing),
  (71090, 71093, .nonspacing), (71100, 71101, .nonspacing), (71103, 71104, .nonspacing),
  (71132, 71133, .nonspacing), (71219, 71226, .nonspacing), (71229, 71229, .nonspacing),
  (71231, 71232, .nonspacing), (71264, 71276, .neutral), (71339, 71339, .nonspacing),
  (71341, 71341, .nonspacing), (71344, 71349, .nonspacing), (71351, 71351, .nonspacing),
  (71453, 71455, .nonspacing), (71458, 71461, .nonspacing), (71463, 71467, .nonspacing),
  (71727, 71735, .nonspacing), (71737, 71738, .nonspacing), (71995, 71996, .nonspacing),
  (71998, 71998, .nonspacing), (72003, 72003, .nonspacing), (72148, 72155, .nonspacing),
  (72160, 72160, .nonspacing), (72193, 72198, .nonspacing), (72201, 72202, .nonspacing),
  (72243, 72248, .nonspacing), (72251, 72254, .nonspacing), (72263, 72263, .nonspacing),
  (72273, 72278, .nonspacing), (72281, 72283, .nonspacing), (72330, 72342, .nonspacing),
  (72344, 72345, .nonspacing), (72544, 72544, .nonspacing), (72546, 72548, .nonspacing),
  (72550, 72550, .nonspacing), (72752, 72765, .nonspacing), (72850, 72871, .nonspacing),
  (72874, 72880, .nonspacing), (72882, 72883, .nonspacing), (72885, 72886, .nonspacing),
  (73009, 73029, .nonspacing), (73031, 73031, .nonspacing), (73104, 73105, .nonspacing),
  (73109, 73109, .nonspacing), (73111, 73111, .nonspacing), (73459, 73460, .nonspacing),
  (73472, 73473, .nonspacing), (73526, 73530, .nonspacing), (73536, 73536, .nonspacing),
  (73538, 73538, .nonspacing), (73562, 73562, .nonspacing), (73685, 73692, .neutral),
  (73693, 73696, .terminator), (73697, 73713, .neutral), (78912, 78912, .nonspacing),
  (78919, 78933, .nonspacing), (90398, 90409, .nonspacing), (90413, 90415, .nonspacing),
  (92912, 92916, .nonspacing), (92976, 92982, .nonspacing), (94031, 94031, .nonspacing),
  (94095, 94098, .nonspacing), (94178, 94178, .neutral), (94180, 94180, .nonspacing),
  (113821, 113822, .nonspacing), (117760, 118512, .neutral), (118528, 118598, .nonspacing),
  (119143, 119145, .nonspacing), (119163, 119170, .nonspacing), (119173, 119179, .nonspacing),
  (119210, 119213, .nonspacing), (119273, 119361, .neutral), (119362, 119364, .nonspacing),
  (119365, 119365, .neutral), (119552, 119638, .neutral), (121344, 121398, .nonspacing),
  (121403, 121452, .nonspacing), (121461, 121461, .nonspacing), (121476, 121476, .nonspacing),
  (121499, 121519, .nonspacing), (122880, 123023, .nonspacing), (123184, 123190, .nonspacing),
  (123566, 123566, .nonspacing), (123628, 123631, .nonspacing), (123647, 123647, .terminator),
  (124140, 124143, .nonspacing), (124398, 124399, .nonspacing), (124415, 124415, .neutral),
  (124643, 124643, .nonspacing), (124646, 124646, .nonspacing), (124654, 124655, .nonspacing),
  (124661, 124661, .nonspacing), (124928, 125135, .right), (125136, 125142, .nonspacing),
  (125218, 125251, .right), (125252, 125258, .nonspacing), (125259, 125279, .right),
  (126065, 126269, .arabic), (126704, 127279, .neutral), (127341, 127343, .neutral),
  (127405, 127405, .neutral), (127584, 130042, .neutral)]

def direction (c : Char) : Direction :=
  match directionRanges.find? fun r => r.1 ≤ c.toNat && c.toNat ≤ r.2.1 with
  | some r => r.2.2
  | none => .left

end TableExchange.Http.Domain
