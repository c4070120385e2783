/-!
# Characters spelled with ASCII

Many characters outside ASCII stand for ASCII letters, digits and signs: wide and styled forms,
ligatures, fractions. A run of such characters may stand for a run of ASCII characters. The tables
say nothing about ASCII.
-/

namespace Inventory.Url.Domain

namespace Spelling

/-- The runs below U+0C00. -/
def low : List (Nat × Nat × String) := [
  (0xaa, 0xaa, "a"), (0xb2, 0xb3, "2"), (0xb9, 0xb9, "1"), (0xba, 0xba, "o"),
  (0xbc, 0xbc, "1\u20444"), (0xbd, 0xbd, "1\u20442"), (0xbe, 0xbe, "3\u20444"),
  (0x130, 0x130, "i\u0307"), (0x132, 0x132, "ij"), (0x133, 0x133, "ij"), (0x13f, 0x13f, "l\u00b7"),
  (0x140, 0x140, "l\u00b7"), (0x149, 0x149, "\u02bcn"), (0x17f, 0x17f, "s"),
  (0x1c4, 0x1c4, "d\u017e"), (0x1c5, 0x1c5, "d\u017e"), (0x1c6, 0x1c6, "d\u017e"),
  (0x1c7, 0x1c7, "lj"), (0x1c8, 0x1c8, "lj"), (0x1c9, 0x1c9, "lj"), (0x1ca, 0x1ca, "nj"),
  (0x1cb, 0x1cb, "nj"), (0x1cc, 0x1cc, "nj"), (0x1f1, 0x1f1, "dz"), (0x1f2, 0x1f2, "dz"),
  (0x1f3, 0x1f3, "dz"), (0x2b0, 0x2b0, "h"), (0x2b2, 0x2b2, "j"), (0x2b3, 0x2b3, "r"),
  (0x2b7, 0x2b7, "w"), (0x2b8, 0x2b8, "y"), (0x2e1, 0x2e1, "l"), (0x2e2, 0x2e2, "s"),
  (0x2e3, 0x2e3, "x"), (0x37e, 0x37e, ";")]

/-- The runs from U+0C00 below U+2000. -/
def middle : List (Nat × Nat × String) := [
  (0x1d2c, 0x1d2c, "a"), (0x1d2e, 0x1d2e, "b"), (0x1d30, 0x1d31, "d"), (0x1d33, 0x1d3a, "g"),
  (0x1d3c, 0x1d3c, "o"), (0x1d3e, 0x1d3e, "p"), (0x1d3f, 0x1d3f, "r"), (0x1d40, 0x1d41, "t"),
  (0x1d42, 0x1d42, "w"), (0x1d43, 0x1d43, "a"), (0x1d47, 0x1d47, "b"), (0x1d48, 0x1d49, "d"),
  (0x1d4d, 0x1d4d, "g"), (0x1d4f, 0x1d4f, "k"), (0x1d50, 0x1d50, "m"), (0x1d52, 0x1d52, "o"),
  (0x1d56, 0x1d56, "p"), (0x1d57, 0x1d58, "t"), (0x1d5b, 0x1d5b, "v"), (0x1d62, 0x1d62, "i"),
  (0x1d63, 0x1d63, "r"), (0x1d64, 0x1d65, "u"), (0x1d9c, 0x1d9c, "c"), (0x1da0, 0x1da0, "f"),
  (0x1dbb, 0x1dbb, "z"), (0x1e9a, 0x1e9a, "a\u02be"), (0x1fef, 0x1fef, "\x60")]

/-- The runs from U+2000 below U+10000. -/
def high : List (Nat × Nat × String) := [
  (0x203c, 0x203c, "!!"), (0x2070, 0x2070, "0"), (0x2071, 0x2071, "i"), (0x2074, 0x2079, "4"),
  (0x207a, 0x207a, "+"), (0x207c, 0x207c, "="), (0x207d, 0x207e, "("), (0x207f, 0x207f, "n"),
  (0x2080, 0x2089, "0"), (0x208a, 0x208a, "+"), (0x208c, 0x208c, "="), (0x208d, 0x208e, "("),
  (0x2090, 0x2090, "a"), (0x2091, 0x2091, "e"), (0x2092, 0x2092, "o"), (0x2093, 0x2093, "x"),
  (0x2095, 0x2095, "h"), (0x2096, 0x2099, "k"), (0x209a, 0x209a, "p"), (0x209b, 0x209c, "s"),
  (0x20a8, 0x20a8, "rs"), (0x2102, 0x2102, "c"), (0x2103, 0x2103, "\u00b0c"),
  (0x2109, 0x2109, "\u00b0f"), (0x210a, 0x210b, "g"), (0x210c, 0x210c, "h"), (0x210d, 0x210d, "h"),
  (0x210e, 0x210e, "h"), (0x2110, 0x2110, "i"), (0x2111, 0x2111, "i"), (0x2112, 0x2112, "l"),
  (0x2113, 0x2113, "l"), (0x2115, 0x2115, "n"), (0x2116, 0x2116, "no"), (0x2119, 0x211b, "p"),
  (0x211c, 0x211c, "r"), (0x211d, 0x211d, "r"), (0x2120, 0x2120, "sm"), (0x2121, 0x2121, "tel"),
  (0x2122, 0x2122, "tm"), (0x2124, 0x2124, "z"), (0x2128, 0x2128, "z"), (0x212a, 0x212a, "k"),
  (0x212c, 0x212d, "b"), (0x212f, 0x212f, "e"), (0x2130, 0x2131, "e"), (0x2133, 0x2133, "m"),
  (0x2134, 0x2134, "o"), (0x2139, 0x2139, "i"), (0x213b, 0x213b, "fax"), (0x2145, 0x2145, "d"),
  (0x2146, 0x2147, "d"), (0x2148, 0x2149, "i"), (0x2150, 0x2150, "1\u20447"),
  (0x2151, 0x2151, "1\u20449"), (0x2152, 0x2152, "1\u204410"), (0x2153, 0x2153, "1\u20443"),
  (0x2154, 0x2154, "2\u20443"), (0x2155, 0x2155, "1\u20445"), (0x2156, 0x2156, "2\u20445"),
  (0x2157, 0x2157, "3\u20445"), (0x2158, 0x2158, "4\u20445"), (0x2159, 0x2159, "1\u20446"),
  (0x215a, 0x215a, "5\u20446"), (0x215b, 0x215b, "1\u20448"), (0x215c, 0x215c, "3\u20448"),
  (0x215d, 0x215d, "5\u20448"), (0x215e, 0x215e, "7\u20448"), (0x215f, 0x215f, "1\u2044"),
  (0x2160, 0x2160, "i"), (0x2161, 0x2161, "ii"), (0x2162, 0x2162, "iii"), (0x2163, 0x2163, "iv"),
  (0x2164, 0x2164, "v"), (0x2165, 0x2165, "vi"), (0x2166, 0x2166, "vii"), (0x2167, 0x2167, "viii"),
  (0x2168, 0x2168, "ix"), (0x2169, 0x2169, "x"), (0x216a, 0x216a, "xi"), (0x216b, 0x216b, "xii"),
  (0x216c, 0x216c, "l"), (0x216d, 0x216e, "c"), (0x216f, 0x216f, "m"), (0x2170, 0x2170, "i"),
  (0x2171, 0x2171, "ii"), (0x2172, 0x2172, "iii"), (0x2173, 0x2173, "iv"), (0x2174, 0x2174, "v"),
  (0x2175, 0x2175, "vi"), (0x2176, 0x2176, "vii"), (0x2177, 0x2177, "viii"),
  (0x2178, 0x2178, "ix"), (0x2179, 0x2179, "x"), (0x217a, 0x217a, "xi"), (0x217b, 0x217b, "xii"),
  (0x217c, 0x217c, "l"), (0x217d, 0x217e, "c"), (0x217f, 0x217f, "m"),
  (0x2189, 0x2189, "0\u20443"), (0x2460, 0x2468, "1"), (0x2469, 0x2469, "10"),
  (0x246a, 0x246a, "11"), (0x246b, 0x246b, "12"), (0x246c, 0x246c, "13"), (0x246d, 0x246d, "14"),
  (0x246e, 0x246e, "15"), (0x246f, 0x246f, "16"), (0x2470, 0x2470, "17"), (0x2471, 0x2471, "18"),
  (0x2472, 0x2472, "19"), (0x2473, 0x2473, "20"), (0x2474, 0x2474, "(1)"), (0x2475, 0x2475, "(2)"),
  (0x2476, 0x2476, "(3)"), (0x2477, 0x2477, "(4)"), (0x2478, 0x2478, "(5)"),
  (0x2479, 0x2479, "(6)"), (0x247a, 0x247a, "(7)"), (0x247b, 0x247b, "(8)"),
  (0x247c, 0x247c, "(9)"), (0x247d, 0x247d, "(10)"), (0x247e, 0x247e, "(11)"),
  (0x247f, 0x247f, "(12)"), (0x2480, 0x2480, "(13)"), (0x2481, 0x2481, "(14)"),
  (0x2482, 0x2482, "(15)"), (0x2483, 0x2483, "(16)"), (0x2484, 0x2484, "(17)"),
  (0x2485, 0x2485, "(18)"), (0x2486, 0x2486, "(19)"), (0x2487, 0x2487, "(20)"),
  (0x249c, 0x249c, "(a)"), (0x249d, 0x249d, "(b)"), (0x249e, 0x249e, "(c)"),
  (0x249f, 0x249f, "(d)"), (0x24a0, 0x24a0, "(e)"), (0x24a1, 0x24a1, "(f)"),
  (0x24a2, 0x24a2, "(g)"), (0x24a3, 0x24a3, "(h)"), (0x24a4, 0x24a4, "(i)"),
  (0x24a5, 0x24a5, "(j)"), (0x24a6, 0x24a6, "(k)"), (0x24a7, 0x24a7, "(l)"),
  (0x24a8, 0x24a8, "(m)"), (0x24a9, 0x24a9, "(n)"), (0x24aa, 0x24aa, "(o)"),
  (0x24ab, 0x24ab, "(p)"), (0x24ac, 0x24ac, "(q)"), (0x24ad, 0x24ad, "(r)"),
  (0x24ae, 0x24ae, "(s)"), (0x24af, 0x24af, "(t)"), (0x24b0, 0x24b0, "(u)"),
  (0x24b1, 0x24b1, "(v)"), (0x24b2, 0x24b2, "(w)"), (0x24b3, 0x24b3, "(x)"),
  (0x24b4, 0x24b4, "(y)"), (0x24b5, 0x24b5, "(z)"), (0x24b6, 0x24cf, "a"), (0x24d0, 0x24e9, "a"),
  (0x24ea, 0x24ea, "0"), (0x2a75, 0x2a75, "=="), (0x2a76, 0x2a76, "==="), (0x2c7c, 0x2c7c, "j"),
  (0x2c7d, 0x2c7d, "v"), (0x3002, 0x3002, "."), (0x3200, 0x3200, "(\u1100)"),
  (0x3201, 0x3201, "(\u1102)"), (0x3202, 0x3202, "(\u1103)"), (0x3203, 0x3203, "(\u1105)"),
  (0x3204, 0x3204, "(\u1106)"), (0x3205, 0x3205, "(\u1107)"), (0x3206, 0x3206, "(\u1109)"),
  (0x3207, 0x3207, "(\u110b)"), (0x3208, 0x3208, "(\u110c)"), (0x3209, 0x3209, "(\u110e)"),
  (0x320a, 0x320a, "(\u110f)"), (0x320b, 0x320b, "(\u1110)"), (0x320c, 0x320c, "(\u1111)"),
  (0x320d, 0x320d, "(\u1112)"), (0x320e, 0x320e, "(\uac00)"), (0x320f, 0x320f, "(\ub098)"),
  (0x3210, 0x3210, "(\ub2e4)"), (0x3211, 0x3211, "(\ub77c)"), (0x3212, 0x3212, "(\ub9c8)"),
  (0x3213, 0x3213, "(\ubc14)"), (0x3214, 0x3214, "(\uc0ac)"), (0x3215, 0x3215, "(\uc544)"),
  (0x3216, 0x3216, "(\uc790)"), (0x3217, 0x3217, "(\ucc28)"), (0x3218, 0x3218, "(\uce74)"),
  (0x3219, 0x3219, "(\ud0c0)"), (0x321a, 0x321a, "(\ud30c)"), (0x321b, 0x321b, "(\ud558)"),
  (0x321c, 0x321c, "(\uc8fc)"), (0x321d, 0x321d, "(\uc624\uc804)"),
  (0x321e, 0x321e, "(\uc624\ud6c4)"), (0x3220, 0x3220, "(\u4e00)"), (0x3221, 0x3221, "(\u4e8c)"),
  (0x3222, 0x3222, "(\u4e09)"), (0x3223, 0x3223, "(\u56db)"), (0x3224, 0x3224, "(\u4e94)"),
  (0x3225, 0x3225, "(\u516d)"), (0x3226, 0x3226, "(\u4e03)"), (0x3227, 0x3227, "(\u516b)"),
  (0x3228, 0x3228, "(\u4e5d)"), (0x3229, 0x3229, "(\u5341)"), (0x322a, 0x322a, "(\u6708)"),
  (0x322b, 0x322b, "(\u706b)"), (0x322c, 0x322c, "(\u6c34)"), (0x322d, 0x322d, "(\u6728)"),
  (0x322e, 0x322e, "(\u91d1)"), (0x322f, 0x322f, "(\u571f)"), (0x3230, 0x3230, "(\u65e5)"),
  (0x3231, 0x3231, "(\u682a)"), (0x3232, 0x3232, "(\u6709)"), (0x3233, 0x3233, "(\u793e)"),
  (0x3234, 0x3234, "(\u540d)"), (0x3235, 0x3235, "(\u7279)"), (0x3236, 0x3236, "(\u8ca1)"),
  (0x3237, 0x3237, "(\u795d)"), (0x3238, 0x3238, "(\u52b4)"), (0x3239, 0x3239, "(\u4ee3)"),
  (0x323a, 0x323a, "(\u547c)"), (0x323b, 0x323b, "(\u5b66)"), (0x323c, 0x323c, "(\u76e3)"),
  (0x323d, 0x323d, "(\u4f01)"), (0x323e, 0x323e, "(\u8cc7)"), (0x323f, 0x323f, "(\u5354)"),
  (0x3240, 0x3240, "(\u796d)"), (0x3241, 0x3241, "(\u4f11)"), (0x3242, 0x3242, "(\u81ea)"),
  (0x3243, 0x3243, "(\u81f3)"), (0x3250, 0x3250, "pte"), (0x3251, 0x3251, "21"),
  (0x3252, 0x3252, "22"), (0x3253, 0x3253, "23"), (0x3254, 0x3254, "24"), (0x3255, 0x3255, "25"),
  (0x3256, 0x3256, "26"), (0x3257, 0x3257, "27"), (0x3258, 0x3258, "28"), (0x3259, 0x3259, "29"),
  (0x325a, 0x325a, "30"), (0x325b, 0x325b, "31"), (0x325c, 0x325c, "32"), (0x325d, 0x325d, "33"),
  (0x325e, 0x325e, "34"), (0x325f, 0x325f, "35"), (0x32b1, 0x32b1, "36"), (0x32b2, 0x32b2, "37"),
  (0x32b3, 0x32b3, "38"), (0x32b4, 0x32b4, "39"), (0x32b5, 0x32b5, "40"), (0x32b6, 0x32b6, "41"),
  (0x32b7, 0x32b7, "42"), (0x32b8, 0x32b8, "43"), (0x32b9, 0x32b9, "44"), (0x32ba, 0x32ba, "45"),
  (0x32bb, 0x32bb, "46"), (0x32bc, 0x32bc, "47"), (0x32bd, 0x32bd, "48"), (0x32be, 0x32be, "49"),
  (0x32bf, 0x32bf, "50"), (0x32c0, 0x32c0, "1\u6708"), (0x32c1, 0x32c1, "2\u6708"),
  (0x32c2, 0x32c2, "3\u6708"), (0x32c3, 0x32c3, "4\u6708"), (0x32c4, 0x32c4, "5\u6708"),
  (0x32c5, 0x32c5, "6\u6708"), (0x32c6, 0x32c6, "7\u6708"), (0x32c7, 0x32c7, "8\u6708"),
  (0x32c8, 0x32c8, "9\u6708"), (0x32c9, 0x32c9, "10\u6708"), (0x32ca, 0x32ca, "11\u6708"),
  (0x32cb, 0x32cb, "12\u6708"), (0x32cc, 0x32cc, "hg"), (0x32cd, 0x32cd, "erg"),
  (0x32ce, 0x32ce, "ev"), (0x32cf, 0x32cf, "ltd"), (0x3358, 0x3358, "0\u70b9"),
  (0x3359, 0x3359, "1\u70b9"), (0x335a, 0x335a, "2\u70b9"), (0x335b, 0x335b, "3\u70b9"),
  (0x335c, 0x335c, "4\u70b9"), (0x335d, 0x335d, "5\u70b9"), (0x335e, 0x335e, "6\u70b9"),
  (0x335f, 0x335f, "7\u70b9"), (0x3360, 0x3360, "8\u70b9"), (0x3361, 0x3361, "9\u70b9"),
  (0x3362, 0x3362, "10\u70b9"), (0x3363, 0x3363, "11\u70b9"), (0x3364, 0x3364, "12\u70b9"),
  (0x3365, 0x3365, "13\u70b9"), (0x3366, 0x3366, "14\u70b9"), (0x3367, 0x3367, "15\u70b9"),
  (0x3368, 0x3368, "16\u70b9"), (0x3369, 0x3369, "17\u70b9"), (0x336a, 0x336a, "18\u70b9"),
  (0x336b, 0x336b, "19\u70b9"), (0x336c, 0x336c, "20\u70b9"), (0x336d, 0x336d, "21\u70b9"),
  (0x336e, 0x336e, "22\u70b9"), (0x336f, 0x336f, "23\u70b9"), (0x3370, 0x3370, "24\u70b9"),
  (0x3371, 0x3371, "hpa"), (0x3372, 0x3372, "da"), (0x3373, 0x3373, "au"), (0x3374, 0x3374, "bar"),
  (0x3375, 0x3375, "ov"), (0x3376, 0x3376, "pc"), (0x3377, 0x3377, "dm"), (0x3378, 0x3378, "dm2"),
  (0x3379, 0x3379, "dm3"), (0x337a, 0x337a, "iu"), (0x3380, 0x3380, "pa"), (0x3381, 0x3381, "na"),
  (0x3382, 0x3382, "\u03bca"), (0x3383, 0x3383, "ma"), (0x3384, 0x3384, "ka"),
  (0x3385, 0x3385, "kb"), (0x3386, 0x3386, "mb"), (0x3387, 0x3387, "gb"), (0x3388, 0x3388, "cal"),
  (0x3389, 0x3389, "kcal"), (0x338a, 0x338a, "pf"), (0x338b, 0x338b, "nf"),
  (0x338c, 0x338c, "\u03bcf"), (0x338d, 0x338d, "\u03bcg"), (0x338e, 0x338e, "mg"),
  (0x338f, 0x338f, "kg"), (0x3390, 0x3390, "hz"), (0x3391, 0x3391, "khz"), (0x3392, 0x3392, "mhz"),
  (0x3393, 0x3393, "ghz"), (0x3394, 0x3394, "thz"), (0x3395, 0x3395, "\u03bcl"),
  (0x3396, 0x3396, "ml"), (0x3397, 0x3397, "dl"), (0x3398, 0x3398, "kl"), (0x3399, 0x3399, "fm"),
  (0x339a, 0x339a, "nm"), (0x339b, 0x339b, "\u03bcm"), (0x339c, 0x339c, "mm"),
  (0x339d, 0x339d, "cm"), (0x339e, 0x339e, "km"), (0x339f, 0x339f, "mm2"), (0x33a0, 0x33a0, "cm2"),
  (0x33a1, 0x33a1, "m2"), (0x33a2, 0x33a2, "km2"), (0x33a3, 0x33a3, "mm3"),
  (0x33a4, 0x33a4, "cm3"), (0x33a5, 0x33a5, "m3"), (0x33a6, 0x33a6, "km3"),
  (0x33a7, 0x33a7, "m\u2215s"), (0x33a8, 0x33a8, "m\u2215s2"), (0x33a9, 0x33a9, "pa"),
  (0x33aa, 0x33aa, "kpa"), (0x33ab, 0x33ab, "mpa"), (0x33ac, 0x33ac, "gpa"),
  (0x33ad, 0x33ad, "rad"), (0x33ae, 0x33ae, "rad\u2215s"), (0x33af, 0x33af, "rad\u2215s2"),
  (0x33b0, 0x33b0, "ps"), (0x33b1, 0x33b1, "ns"), (0x33b2, 0x33b2, "\u03bcs"),
  (0x33b3, 0x33b3, "ms"), (0x33b4, 0x33b4, "pv"), (0x33b5, 0x33b5, "nv"),
  (0x33b6, 0x33b6, "\u03bcv"), (0x33b7, 0x33b7, "mv"), (0x33b8, 0x33b8, "kv"),
  (0x33b9, 0x33b9, "mv"), (0x33ba, 0x33ba, "pw"), (0x33bb, 0x33bb, "nw"),
  (0x33bc, 0x33bc, "\u03bcw"), (0x33bd, 0x33bd, "mw"), (0x33be, 0x33be, "kw"),
  (0x33bf, 0x33bf, "mw"), (0x33c0, 0x33c0, "k\u03c9"), (0x33c1, 0x33c1, "m\u03c9"),
  (0x33c3, 0x33c3, "bq"), (0x33c4, 0x33c4, "cc"), (0x33c5, 0x33c5, "cd"),
  (0x33c6, 0x33c6, "c\u2215kg"), (0x33c8, 0x33c8, "db"), (0x33c9, 0x33c9, "gy"),
  (0x33ca, 0x33ca, "ha"), (0x33cb, 0x33cb, "hp"), (0x33cc, 0x33cc, "in"), (0x33cd, 0x33cd, "kk"),
  (0x33ce, 0x33ce, "km"), (0x33cf, 0x33cf, "kt"), (0x33d0, 0x33d0, "lm"), (0x33d1, 0x33d1, "ln"),
  (0x33d2, 0x33d2, "log"), (0x33d3, 0x33d3, "lx"), (0x33d4, 0x33d4, "mb"), (0x33d5, 0x33d5, "mil"),
  (0x33d6, 0x33d6, "mol"), (0x33d7, 0x33d7, "ph"), (0x33d9, 0x33d9, "ppm"), (0x33da, 0x33da, "pr"),
  (0x33db, 0x33db, "sr"), (0x33dc, 0x33dc, "sv"), (0x33dd, 0x33dd, "wb"),
  (0x33de, 0x33de, "v\u2215m"), (0x33df, 0x33df, "a\u2215m"), (0x33e0, 0x33e0, "1\u65e5"),
  (0x33e1, 0x33e1, "2\u65e5"), (0x33e2, 0x33e2, "3\u65e5"), (0x33e3, 0x33e3, "4\u65e5"),
  (0x33e4, 0x33e4, "5\u65e5"), (0x33e5, 0x33e5, "6\u65e5"), (0x33e6, 0x33e6, "7\u65e5"),
  (0x33e7, 0x33e7, "8\u65e5"), (0x33e8, 0x33e8, "9\u65e5"), (0x33e9, 0x33e9, "10\u65e5"),
  (0x33ea, 0x33ea, "11\u65e5"), (0x33eb, 0x33eb, "12\u65e5"), (0x33ec, 0x33ec, "13\u65e5"),
  (0x33ed, 0x33ed, "14\u65e5"), (0x33ee, 0x33ee, "15\u65e5"), (0x33ef, 0x33ef, "16\u65e5"),
  (0x33f0, 0x33f0, "17\u65e5"), (0x33f1, 0x33f1, "18\u65e5"), (0x33f2, 0x33f2, "19\u65e5"),
  (0x33f3, 0x33f3, "20\u65e5"), (0x33f4, 0x33f4, "21\u65e5"), (0x33f5, 0x33f5, "22\u65e5"),
  (0x33f6, 0x33f6, "23\u65e5"), (0x33f7, 0x33f7, "24\u65e5"), (0x33f8, 0x33f8, "25\u65e5"),
  (0x33f9, 0x33f9, "26\u65e5"), (0x33fa, 0x33fa, "27\u65e5"), (0x33fb, 0x33fb, "28\u65e5"),
  (0x33fc, 0x33fc, "29\u65e5"), (0x33fd, 0x33fd, "30\u65e5"), (0x33fe, 0x33fe, "31\u65e5"),
  (0x33ff, 0x33ff, "gal"), (0xa7f1, 0xa7f1, "s"), (0xa7f2, 0xa7f2, "c"), (0xa7f3, 0xa7f3, "f"),
  (0xa7f4, 0xa7f4, "q"), (0xfb00, 0xfb00, "ff"), (0xfb01, 0xfb01, "fi"), (0xfb02, 0xfb02, "fl"),
  (0xfb03, 0xfb03, "ffi"), (0xfb04, 0xfb04, "ffl"), (0xfb05, 0xfb05, "st"), (0xfb06, 0xfb06, "st"),
  (0xfb29, 0xfb29, "+"), (0xfe10, 0xfe10, ","), (0xfe14, 0xfe14, ";"), (0xfe15, 0xfe15, "!"),
  (0xfe33, 0xfe33, "_"), (0xfe34, 0xfe34, "_"), (0xfe35, 0xfe36, "("), (0xfe37, 0xfe37, "\x7b"),
  (0xfe38, 0xfe38, "\x7d"), (0xfe4d, 0xfe4d, "_"), (0xfe4e, 0xfe4e, "_"), (0xfe4f, 0xfe4f, "_"),
  (0xfe50, 0xfe50, ","), (0xfe54, 0xfe54, ";"), (0xfe57, 0xfe57, "!"), (0xfe59, 0xfe5a, "("),
  (0xfe5b, 0xfe5b, "\x7b"), (0xfe5c, 0xfe5c, "\x7d"), (0xfe60, 0xfe60, "&"), (0xfe61, 0xfe62, "*"),
  (0xfe63, 0xfe63, "-"), (0xfe66, 0xfe66, "="), (0xfe69, 0xfe69, "$"), (0xff01, 0xff02, "!"),
  (0xff04, 0xff04, "$"), (0xff06, 0xff0e, "&"), (0xff10, 0xff19, "0"), (0xff1b, 0xff1b, ";"),
  (0xff1d, 0xff1d, "="), (0xff21, 0xff3a, "a"), (0xff3f, 0xff5b, "_"), (0xff5d, 0xff5e, "\x7d"),
  (0xff61, 0xff61, ".")]

/-- The runs from U+10000 below U+12000. -/
def beyondLow : List (Nat × Nat × String) := [
  (0x107a5, 0x107a5, "q")]

/-- The runs from U+12000. -/
def beyondHigh : List (Nat × Nat × String) := [
  (0x1ccd6, 0x1ccef, "a"), (0x1ccf0, 0x1ccf9, "0"), (0x1d400, 0x1d419, "a"),
  (0x1d41a, 0x1d433, "a"), (0x1d434, 0x1d44d, "a"), (0x1d44e, 0x1d454, "a"),
  (0x1d456, 0x1d467, "i"), (0x1d468, 0x1d481, "a"), (0x1d482, 0x1d49b, "a"),
  (0x1d49c, 0x1d49c, "a"), (0x1d49e, 0x1d49f, "c"), (0x1d4a2, 0x1d4a2, "g"),
  (0x1d4a5, 0x1d4a6, "j"), (0x1d4a9, 0x1d4ac, "n"), (0x1d4ae, 0x1d4b5, "s"),
  (0x1d4b6, 0x1d4b9, "a"), (0x1d4bb, 0x1d4bb, "f"), (0x1d4bd, 0x1d4c3, "h"),
  (0x1d4c5, 0x1d4cf, "p"), (0x1d4d0, 0x1d4e9, "a"), (0x1d4ea, 0x1d503, "a"),
  (0x1d504, 0x1d505, "a"), (0x1d507, 0x1d50a, "d"), (0x1d50d, 0x1d514, "j"),
  (0x1d516, 0x1d51c, "s"), (0x1d51e, 0x1d537, "a"), (0x1d538, 0x1d539, "a"),
  (0x1d53b, 0x1d53e, "d"), (0x1d540, 0x1d544, "i"), (0x1d546, 0x1d546, "o"),
  (0x1d54a, 0x1d550, "s"), (0x1d552, 0x1d56b, "a"), (0x1d56c, 0x1d585, "a"),
  (0x1d586, 0x1d59f, "a"), (0x1d5a0, 0x1d5b9, "a"), (0x1d5ba, 0x1d5d3, "a"),
  (0x1d5d4, 0x1d5ed, "a"), (0x1d5ee, 0x1d607, "a"), (0x1d608, 0x1d621, "a"),
  (0x1d622, 0x1d63b, "a"), (0x1d63c, 0x1d655, "a"), (0x1d656, 0x1d66f, "a"),
  (0x1d670, 0x1d689, "a"), (0x1d68a, 0x1d6a3, "a"), (0x1d7ce, 0x1d7d7, "0"),
  (0x1d7d8, 0x1d7e1, "0"), (0x1d7e2, 0x1d7eb, "0"), (0x1d7ec, 0x1d7f5, "0"),
  (0x1d7f6, 0x1d7ff, "0"), (0x1f101, 0x1f101, "0,"), (0x1f102, 0x1f102, "1,"),
  (0x1f103, 0x1f103, "2,"), (0x1f104, 0x1f104, "3,"), (0x1f105, 0x1f105, "4,"),
  (0x1f106, 0x1f106, "5,"), (0x1f107, 0x1f107, "6,"), (0x1f108, 0x1f108, "7,"),
  (0x1f109, 0x1f109, "8,"), (0x1f10a, 0x1f10a, "9,"), (0x1f110, 0x1f110, "(a)"),
  (0x1f111, 0x1f111, "(b)"), (0x1f112, 0x1f112, "(c)"), (0x1f113, 0x1f113, "(d)"),
  (0x1f114, 0x1f114, "(e)"), (0x1f115, 0x1f115, "(f)"), (0x1f116, 0x1f116, "(g)"),
  (0x1f117, 0x1f117, "(h)"), (0x1f118, 0x1f118, "(i)"), (0x1f119, 0x1f119, "(j)"),
  (0x1f11a, 0x1f11a, "(k)"), (0x1f11b, 0x1f11b, "(l)"), (0x1f11c, 0x1f11c, "(m)"),
  (0x1f11d, 0x1f11d, "(n)"), (0x1f11e, 0x1f11e, "(o)"), (0x1f11f, 0x1f11f, "(p)"),
  (0x1f120, 0x1f120, "(q)"), (0x1f121, 0x1f121, "(r)"), (0x1f122, 0x1f122, "(s)"),
  (0x1f123, 0x1f123, "(t)"), (0x1f124, 0x1f124, "(u)"), (0x1f125, 0x1f125, "(v)"),
  (0x1f126, 0x1f126, "(w)"), (0x1f127, 0x1f127, "(x)"), (0x1f128, 0x1f128, "(y)"),
  (0x1f129, 0x1f129, "(z)"), (0x1f12a, 0x1f12a, "\u3014s\u3015"), (0x1f12b, 0x1f12b, "c"),
  (0x1f12c, 0x1f12c, "r"), (0x1f12d, 0x1f12d, "cd"), (0x1f12e, 0x1f12e, "wz"),
  (0x1f130, 0x1f149, "a"), (0x1f14a, 0x1f14a, "hv"), (0x1f14b, 0x1f14b, "mv"),
  (0x1f14c, 0x1f14c, "sd"), (0x1f14d, 0x1f14d, "ss"), (0x1f14e, 0x1f14e, "ppv"),
  (0x1f14f, 0x1f14f, "wc"), (0x1f16a, 0x1f16a, "mc"), (0x1f16b, 0x1f16b, "md"),
  (0x1f16c, 0x1f16c, "mr"), (0x1f190, 0x1f190, "dj"), (0x1fbf0, 0x1fbf9, "0")]

/-- What the character at a place of a run is spelled with. A run of several characters goes on in
step with what its first one is spelled with. -/
def atPlace (spelling : String) (place : Nat) : List Char :=
  match spelling.toList with
  | [c] => [Char.ofNat (c.toNat + place)]
  | cs => cs

/-- What a character is spelled with by one of the runs. -/
def among : List (Nat × Nat × String) → Nat → Option (List Char)
  | [], _ => none
  | (first, last, spelling) :: rest, n =>
    if first ≤ n ∧ n ≤ last then some (atPlace spelling (n - first)) else among rest n

end Spelling

/-- What a character is spelled with, if it is spelled with ASCII characters. -/
def spelling? (c : Char) : Option (List Char) :=
  let n := c.toNat
  if n < 0xc00 then Spelling.among Spelling.low n
  else if n < 0x2000 then Spelling.among Spelling.middle n
  else if n < 0x10000 then Spelling.among Spelling.high n
  else if n < 0x12000 then Spelling.among Spelling.beyondLow n
  else Spelling.among Spelling.beyondHigh n

end Inventory.Url.Domain
