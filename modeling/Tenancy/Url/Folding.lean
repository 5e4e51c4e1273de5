import Tenancy.Text.Basic
import Tenancy.Text.Composition
import Tenancy.Text.Joining
import Tenancy.Text.Printable

/-! Folded names: characters that stand for the same become the same. Capital letters become small,
other forms of characters (wide ones, circled ones, ligatures) become the characters themselves, and
those that only guide a display are left out. -/
namespace Tenancy.Folding

/-- Characters in rows with forms at one distance: the first, the last, the step from one to the
next, and the distance. -/
def shiftRows : List (Nat × Nat × Nat × Int) := [
  (0x41, 0x5A, 1, 32), (0xC0, 0xD6, 1, 32), (0xD8, 0xDE, 1, 32), (0x100, 0x12E, 2, 1),
  (0x14A, 0x176, 2, 1), (0x1CD, 0x1DB, 2, 1), (0x1DE, 0x1EE, 2, 1), (0x1F8, 0x21E, 2, 1),
  (0x222, 0x232, 2, 1), (0x391, 0x3A1, 1, 32), (0x3A3, 0x3AB, 1, 32), (0x3D8, 0x3EE, 2, 1),
  (0x400, 0x40F, 1, 80), (0x410, 0x42F, 1, 32), (0x460, 0x480, 2, 1), (0x48A, 0x4BE, 2, 1),
  (0x4C1, 0x4CD, 2, 1), (0x4D0, 0x52E, 2, 1), (0x531, 0x556, 1, 48), (0x10A0, 0x10C5, 1, 7264),
  (0x13F8, 0x13FD, 1, -8), (0x1C90, 0x1CBA, 1, -3008), (0x1D33, 0x1D3A, 1, -7372),
  (0x1E00, 0x1E94, 2, 1), (0x1EA0, 0x1EFE, 2, 1), (0x1F08, 0x1F0F, 1, -8), (0x1F18, 0x1F1D, 1, -8),
  (0x1F28, 0x1F2F, 1, -8), (0x1F38, 0x1F3F, 1, -8), (0x1F48, 0x1F4D, 1, -8),
  (0x1F68, 0x1F6F, 1, -8), (0x1FEF, 0x1FEF, 1, -8079), (0x2074, 0x2079, 1, -8256),
  (0x2080, 0x2089, 1, -8272), (0x2460, 0x2468, 1, -9263), (0x24B6, 0x24CF, 1, -9301),
  (0x24D0, 0x24E9, 1, -9327), (0x2C00, 0x2C2F, 1, 48), (0x2C80, 0x2CE2, 2, 1),
  (0x313A, 0x313F, 1, -8074), (0x3145, 0x314E, 1, -8252), (0x314F, 0x3163, 1, -8174),
  (0x32E4, 0x32E9, 1, -538), (0x32F5, 0x32FA, 1, -525), (0xA640, 0xA66C, 2, 1),
  (0xA680, 0xA69A, 2, 1), (0xA722, 0xA72E, 2, 1), (0xA732, 0xA76E, 2, 1), (0xA796, 0xA7A8, 2, 1),
  (0xA7B4, 0xA7C2, 2, 1), (0xA7CC, 0xA7DA, 2, 1), (0xAB70, 0xABBF, 1, -38864),
  (0xFE37, 0xFE37, 1, -64956), (0xFE38, 0xFE38, 1, -64955), (0xFE5B, 0xFE5B, 1, -64992),
  (0xFE5C, 0xFE5C, 1, -64991), (0xFE68, 0xFE68, 1, -65036), (0xFF01, 0xFF20, 1, -65248),
  (0xFF21, 0xFF3A, 1, -65216), (0xFF3B, 0xFF5E, 1, -65248), (0xFF85, 0xFF8A, 1, -52923),
  (0xFF96, 0xFF9B, 1, -52910), (0xFFAA, 0xFFAF, 1, -60922), (0xFFB5, 0xFFBE, 1, -61100),
  (0xFFC2, 0xFFC7, 1, -61025), (0xFFCA, 0xFFCF, 1, -61027), (0xFFD2, 0xFFD7, 1, -61029),
  (0x10400, 0x10427, 1, 40), (0x104B0, 0x104D3, 1, 40), (0x10570, 0x1057A, 1, 39),
  (0x1057C, 0x1058A, 1, 39), (0x1058C, 0x10592, 1, 39), (0x10C80, 0x10CB2, 1, 64),
  (0x10D50, 0x10D65, 1, 32), (0x118A0, 0x118BF, 1, 32), (0x16E40, 0x16E5F, 1, 32),
  (0x16EA0, 0x16EB8, 1, 27), (0x1CCD6, 0x1CCEF, 1, -117877), (0x1CCF0, 0x1CCF9, 1, -117952),
  (0x1D400, 0x1D419, 1, -119711), (0x1D41A, 0x1D433, 1, -119737), (0x1D434, 0x1D44D, 1, -119763),
  (0x1D44E, 0x1D454, 1, -119789), (0x1D456, 0x1D467, 1, -119789), (0x1D468, 0x1D481, 1, -119815),
  (0x1D482, 0x1D49B, 1, -119841), (0x1D4AE, 0x1D4B5, 1, -119867), (0x1D4BD, 0x1D4C3, 1, -119893),
  (0x1D4C5, 0x1D4CF, 1, -119893), (0x1D4D0, 0x1D4E9, 1, -119919), (0x1D4EA, 0x1D503, 1, -119945),
  (0x1D50D, 0x1D514, 1, -119971), (0x1D516, 0x1D51C, 1, -119971), (0x1D51E, 0x1D537, 1, -119997),
  (0x1D54A, 0x1D550, 1, -120023), (0x1D552, 0x1D56B, 1, -120049), (0x1D56C, 0x1D585, 1, -120075),
  (0x1D586, 0x1D59F, 1, -120101), (0x1D5A0, 0x1D5B9, 1, -120127), (0x1D5BA, 0x1D5D3, 1, -120153),
  (0x1D5D4, 0x1D5ED, 1, -120179), (0x1D5EE, 0x1D607, 1, -120205), (0x1D608, 0x1D621, 1, -120231),
  (0x1D622, 0x1D63B, 1, -120257), (0x1D63C, 0x1D655, 1, -120283), (0x1D656, 0x1D66F, 1, -120309),
  (0x1D670, 0x1D689, 1, -120335), (0x1D68A, 0x1D6A3, 1, -120361), (0x1D6A8, 0x1D6B8, 1, -119543),
  (0x1D6BA, 0x1D6C0, 1, -119543), (0x1D6C2, 0x1D6D2, 1, -119569), (0x1D6D4, 0x1D6DA, 1, -119569),
  (0x1D6E2, 0x1D6F2, 1, -119601), (0x1D6F4, 0x1D6FA, 1, -119601), (0x1D6FC, 0x1D70C, 1, -119627),
  (0x1D70E, 0x1D714, 1, -119627), (0x1D71C, 0x1D72C, 1, -119659), (0x1D72E, 0x1D734, 1, -119659),
  (0x1D736, 0x1D746, 1, -119685), (0x1D748, 0x1D74E, 1, -119685), (0x1D756, 0x1D766, 1, -119717),
  (0x1D768, 0x1D76E, 1, -119717), (0x1D770, 0x1D780, 1, -119743), (0x1D782, 0x1D788, 1, -119743),
  (0x1D790, 0x1D7A0, 1, -119775), (0x1D7A2, 0x1D7A8, 1, -119775), (0x1D7AA, 0x1D7BA, 1, -119801),
  (0x1D7BC, 0x1D7C2, 1, -119801), (0x1D7CE, 0x1D7D7, 1, -120734), (0x1D7D8, 0x1D7E1, 1, -120744),
  (0x1D7E2, 0x1D7EB, 1, -120754), (0x1D7EC, 0x1D7F5, 1, -120764), (0x1D7F6, 0x1D7FF, 1, -120774),
  (0x1E030, 0x1E038, 1, -121856), (0x1E03C, 0x1E046, 1, -121854), (0x1E051, 0x1E059, 1, -121889),
  (0x1E05F, 0x1E064, 1, -121884), (0x1E900, 0x1E921, 1, 34), (0x1F130, 0x1F149, 1, -127183),
  (0x1FBF0, 0x1FBF9, 1, -129984)]

/-- Characters in rows: the first one, and the forms of it and of those after it. -/
def formRows : List (Nat × String) := [
  (0xAA, "a"), (0xB2, "2 3"), (0xB5, "μ"), (0xB9, "1 o » 1⁄4 1⁄2 3⁄4"),
  (0x130, "i̇ ı ij ij ĵ ĵ ķ ķ ĸ ĺ ĺ ļ ļ ľ ľ l· l· ł ł ń ń ņ ņ ň ň ʼn"),
  (0x178, "ÿ ź ź ż ż ž ž s ƀ ɓ ƃ ƃ ƅ ƅ ɔ ƈ ƈ ɖ ɗ ƌ ƌ ƍ ǝ ə ɛ ƒ ƒ ɠ ɣ ƕ ɩ ɨ ƙ"),
  (0x199, "ƙ ƚ ƛ ɯ ɲ ƞ ɵ ơ ơ ƣ ƣ ƥ ƥ ʀ ƨ ƨ ʃ ƪ ƫ ƭ ƭ ʈ ư ư ʊ ʋ ƴ ƴ ƶ ƶ ʒ ƹ ƹ"),
  (0x1BA, "ƺ ƻ ƽ"), (0x1C4, "dž dž dž lj lj lj nj nj nj"), (0x1F1, "dz dz dz ǵ ǵ ƕ ƿ"), (0x220, "ƞ"),
  (0x23A, "ⱥ ȼ ȼ ƚ ⱦ ȿ ɀ ɂ ɂ ƀ ʉ ʌ ɇ ɇ ɉ ɉ ɋ ɋ ɍ ɍ ɏ"), (0x2B0, "h ɦ j r ɹ ɻ ʁ w y"),
  (0x2E0, "ɣ l s x ʕ"), (0x340, "\u0300 \u0301 \u0342 \u0313 \u0308\u0301 ι"),
  (0x370, "ͱ ͱ ͳ ͳ ʹ ͵ ͷ"), (0x37E, "; ϳ"), (0x386, "ά · έ ή ί"), (0x38C, "ό"), (0x38E, "ύ ώ"),
  (0x3CF, "ϗ β θ υ ύ ϋ φ π"), (0x3F0, "κ ρ σ ϳ θ ε ϶ ϸ ϸ σ ϻ ϻ ϼ ͻ ͼ ͽ"), (0x4C0, "ӏ"),
  (0x587, "եւ"), (0x675, "اٴ وٴ ۇٴ يٴ"),
  (0x958, "क़ ख़ ग़ ज़ ड़ ढ़ फ़ य़"), (0x9DC, "ড় ঢ়"),
  (0x9DF, "য়"), (0xA33, "ਲ਼"), (0xA36, "ਸ਼"), (0xA59, "ਖ਼ ਗ਼ ਜ਼"), (0xA5E, "ਫ਼"),
  (0xB5C, "ଡ଼ ଢ଼"), (0xE33, "\u0e4dา"), (0xEB3, "\u0ecdາ"), (0xEDC, "ຫນ ຫມ"),
  (0xF0C, "་"), (0xF43, "གྷ"),
  (0xF4D, "ཌྷ ཎ ཏ ཐ ད དྷ ན པ ཕ བ བྷ མ ཙ ཚ ཛ ཛྷ"), (0xF69, "ཀྵ"),
  (0xF73, "\u0f71\u0f72 \u0f74 \u0f71\u0f74 \u0fb2\u0f80 \u0fb2\u0f71\u0f80 \u0fb3\u0f80 \u0fb3\u0f71\u0f80"),
  (0xF81, "\u0f71\u0f80"), (0xF93, "\u0f92\u0fb7"),
  (0xF9D, "\u0f9c\u0fb7 \u0f9e \u0f9f \u0fa0 \u0fa1 \u0fa1\u0fb7 \u0fa3 \u0fa4 \u0fa5 \u0fa6 \u0fa6\u0fb7"),
  (0xFA8, "\u0fa8 \u0fa9 \u0faa \u0fab \u0fab\u0fb7"), (0xFB9, "\u0f90\u0fb5"), (0x10C7, "ⴧ"),
  (0x10CD, "ⴭ"), (0x10FC, "ნ"), (0x1C80, "в д о с т т ъ ѣ ꙋ ᲊ"), (0x1CBD, "ჽ ჾ ჿ"),
  (0x1D2C, "a æ b ᴯ d e ǝ"),
  (0x1D3C, "o ȣ p r t u w a ɐ ɑ ᴂ b d e ə ɛ ɜ g ᵎ k m ŋ o ɔ ᴖ ᴗ p t u ᴝ ɯ v ᴥ β γ δ"),
  (0x1D60, "φ χ i r u v β γ ρ φ χ"), (0x1D78, "н"),
  (0x1D9B, "ɒ c ɕ ð ɜ f ɟ ɡ ɥ ɨ ɩ ɪ ᵻ ʝ ɭ ᶅ ʟ ɱ ɰ ɲ ɳ ɴ ɵ ɸ ʂ ʃ ƫ ʉ ʊ ᴜ ʋ ʌ"),
  (0x1DBB, "z ʐ ʑ ʒ θ"), (0x1E9A, "aʾ ṡ ẜ ẝ ß"), (0x1F59, "ὑ"), (0x1F5B, "ὓ"), (0x1F5D, "ὕ"),
  (0x1F5F, "ὗ"), (0x1F71, "ά ὲ έ ὴ ή ὶ ί ὸ ό ὺ ύ ὼ ώ"),
  (0x1F80, "ἀι ἁι ἂι ἃι ἄι ἅι ἆι ἇι ἀι ἁι ἂι ἃι ἄι ἅι ἆι ἇι"),
  (0x1F90, "ἠι ἡι ἢι ἣι ἤι ἥι ἦι ἧι ἠι ἡι ἢι ἣι ἤι ἥι ἦι ἧι"),
  (0x1FA0, "ὠι ὡι ὢι ὣι ὤι ὥι ὦι ὧι ὠι ὡι ὢι ὣι ὤι ὥι ὦι ὧι"),
  (0x1FB0, "ᾰ ᾱ ὰι αι άι"), (0x1FB7, "ᾶι ᾰ ᾱ ὰ ά αι"), (0x1FBE, "ι"),
  (0x1FC2, "ὴι ηι ήι"), (0x1FC7, "ῆι ὲ έ ὴ ή ηι"), (0x1FD3, "ΐ"), (0x1FD8, "ῐ ῑ ὶ ί"),
  (0x1FE3, "ΰ ῤ ῥ ῦ ῧ ῠ ῡ ὺ ύ ῥ"), (0x1FF2, "ὼι ωι ώι"),
  (0x1FF7, "ῶι ὸ ό ὼ ώ ωι"), (0x2011, "‐"),
  (0x2033, "′′ ′′′ ‵ ‵‵ ‵‵‵ ‸ ‹ › ※ !!"), (0x2047, "?? ?! !?"),
  (0x2057, "′′′′"), (0x2070, "0 i"), (0x207A, "+ − = ( ) n"), (0x208A, "+ − = ( )"),
  (0x2090, "a e o x ə h k l m n p s t"), (0x20A8, "rs"),
  (0x2100, "a/c a/s c °c ℄ c/o c/u ɛ ℈ °f g h h h h ħ i i l l ℔ n no ℗ ℘ p q r r r ℞ ℟ sm"),
  (0x2121, "tel tm ℣ z ℥ ω ℧ z ℩ k å b c ℮ e e f ⅎ m o א ב ג ד i ℺ fax π γ γ π ∑"),
  (0x2141, "⅁ ⅂ ⅃ ⅄ d d e i j"),
  (0x2150, "1⁄7 1⁄9 1⁄10 1⁄3 2⁄3 1⁄5 2⁄5 3⁄5 4⁄5 1⁄6 5⁄6 1⁄8 3⁄8 5⁄8 7⁄8 1⁄ i"),
  (0x2161, "ii iii iv v vi vii viii ix x xi xii l c d m i ii iii iv v vi vii viii ix x xi xii l c d m ↀ ↁ"),
  (0x2182, "ↂ ↄ ↄ ↅ ↆ ↇ ↈ 0⁄3"), (0x222C, "∫∫ ∫∫∫ ∮ ∮∮ ∮∮∮"),
  (0x2329, "〈 〉"),
  (0x2469, "10 11 12 13 14 15 16 17 18 19 20 (1) (2) (3) (4) (5) (6) (7) (8) (9) (10) (11) (12) (13) (14)"),
  (0x2482, "(15) (16) (17) (18) (19) (20)"),
  (0x249C, "(a) (b) (c) (d) (e) (f) (g) (h) (i) (j) (k) (l) (m) (n) (o) (p) (q) (r) (s) (t) (u) (v) (w) (x)"),
  (0x24B4, "(y) (z)"), (0x24EA, "0"), (0x2A0C, "∫∫∫∫"), (0x2A74, "::= == ==="), (0x2ADC, "⫝̸"),
  (0x2C60, "ⱡ ⱡ ɫ ᵽ ɽ ⱥ ⱦ ⱨ ⱨ ⱪ ⱪ ⱬ ⱬ ɑ ɱ ɐ ɒ ⱱ ⱳ ⱳ ⱴ ⱶ"),
  (0x2C7C, "j v ȿ ɀ"), (0x2CEB, "ⳬ ⳬ ⳮ ⳮ \u2cef \u2cf0 \u2cf1 ⳳ"), (0x2D6F, "ⵡ"), (0x2E9F, "母"),
  (0x2EF3, "龟"),
  (0x2F00, "一 丨 丶 丿 乙 亅 二 亠 人 儿 入 八 冂 冖 冫 几 凵 刀 力 勹 匕 匚 匸 十"),
  (0x2F18, "卜 卩 厂 厶 又 口 囗 土 士 夂 夊 夕 大 女 子 宀 寸 小 尢 尸 屮 山 巛 工"),
  (0x2F30, "己 巾 干 幺 广 廴 廾 弋 弓 彐 彡 彳 心 戈 戶 手 支 攴 文 斗 斤 方 无 日"),
  (0x2F48, "曰 月 木 欠 止 歹 殳 毋 比 毛 氏 气 水 火 爪 父 爻 爿 片 牙 牛 犬 玄 玉"),
  (0x2F60, "瓜 瓦 甘 生 用 田 疋 疒 癶 白 皮 皿 目 矛 矢 石 示 禸 禾 穴 立 竹 米 糸"),
  (0x2F78, "缶 网 羊 羽 老 而 耒 耳 聿 肉 臣 自 至 臼 舌 舛 舟 艮 色 艸 虍 虫 血 行"),
  (0x2F90, "衣 襾 見 角 言 谷 豆 豕 豸 貝 赤 走 足 身 車 辛 辰 辵 邑 酉 釆 里 金 長"),
  (0x2FA8, "門 阜 隶 隹 雨 靑 非 面 革 韋 韭 音 頁 風 飛 食 首 香 馬 骨 高 髟 鬥 鬯"),
  (0x2FC0, "鬲 鬼 魚 鳥 鹵 鹿 麥 麻 黃 黍 黑 黹 黽 鼎 鼓 鼠 鼻 齊 齒 龍 龜 龠"),
  (0x3002, "."), (0x3036, "〒 〷 十 卄 卅"), (0x309F, "より"), (0x30FF, "コト"),
  (0x3131, "ᄀ ᄁ ᆪ ᄂ ᆬ ᆭ ᄃ ᄄ ᄅ"), (0x3140, "ᄚ ᄆ ᄇ ᄈ ᄡ"),
  (0x3165, "ᄔ ᄕ ᇇ ᇈ ᇌ ᇎ ᇓ ᇗ ᇙ ᄜ ᇝ ᇟ ᄝ ᄞ ᄠ ᄢ ᄣ ᄧ ᄩ ᄫ ᄬ ᄭ ᄮ ᄯ"),
  (0x317D, "ᄲ ᄶ ᅀ ᅇ ᅌ ᇱ ᇲ ᅗ ᅘ ᅙ ᆄ ᆅ ᆈ ᆑ ᆒ ᆔ ᆞ ᆡ"),
  (0x3192, "一 二 三 四 上 中 下 甲 乙 丙 丁 天 地 人"),
  (0x3200, "(ᄀ) (ᄂ) (ᄃ) (ᄅ) (ᄆ) (ᄇ) (ᄉ) (ᄋ) (ᄌ) (ᄎ) (ᄏ) (ᄐ) (ᄑ) (ᄒ) (가) (나)"),
  (0x3210, "(다) (라) (마) (바) (사) (아) (자) (차) (카) (타) (파) (하) (주) (오전) (오후)"),
  (0x3220, "(一) (二) (三) (四) (五) (六) (七) (八) (九) (十) (月) (火) (水) (木) (金) (土)"),
  (0x3230, "(日) (株) (有) (社) (名) (特) (財) (祝) (労) (代) (呼) (学) (監) (企) (資) (協)"),
  (0x3240, "(祭) (休) (自) (至) 問 幼 文 箏"),
  (0x3250, "pte 21 22 23 24 25 26 27 28 29 30 31 32 33 34 35 ᄀ ᄂ ᄃ ᄅ ᄆ ᄇ ᄉ ᄋ ᄌ ᄎ ᄏ ᄐ"),
  (0x326C, "ᄑ ᄒ 가 나 다 라 마 바 사 아 자 차 카 타 파 하 참고 주의 우 ㉿ 一 二 三"),
  (0x3283, "四 五 六 七 八 九 十 月 火 水 木 金 土 日 株 有 社 名 特 財 祝 労 秘 男"),
  (0x329B, "女 適 優 印 注 項 休 写 正 上 中 下 左 右 医 宗 学 監 企 資 協 夜 36 37 38"),
  (0x32B4, "39 40 41 42 43 44 45 46 47 48 49 50 1月 2月 3月 4月 5月 6月 7月 8月 9月 10月 11月"),
  (0x32CB, "12月 hg erg ev ltd ア イ ウ エ オ カ キ ク ケ コ サ シ ス セ ソ タ チ ツ テ"),
  (0x32E3, "ト"), (0x32EA, "ヒ フ ヘ ホ マ ミ ム メ モ ヤ ユ"),
  (0x32FB, "ワ ヰ ヱ ヲ 令和 アパート アルファ アンペア アール イニング インチ"),
  (0x3306, "ウォン エスクード エーカー オンス オーム カイリ カラット カロリー"),
  (0x330E, "ガロン ガンマ ギガ ギニー キュリー ギルダー キロ キログラム"),
  (0x3316, "キロメートル キロワット グラム グラムトン クルゼイロ クローネ"),
  (0x331C, "ケース コルナ コーポ サイクル サンチーム シリング センチ セント"),
  (0x3324, "ダース デシ ドル トン ナノ ノット ハイツ パーセント パーツ バーレル"),
  (0x332E, "ピアストル ピクル ピコ ビル ファラッド フィート ブッシェル フラン"),
  (0x3336, "ヘクタール ペソ ペニヒ ヘルツ ペンス ページ ベータ ポイント ボルト"),
  (0x333F, "ホン ポンド ホール ホーン マイクロ マイル マッハ マルク マンション"),
  (0x3348, "ミクロン ミリ ミリバール メガ メガトン メートル ヤード ヤール"),
  (0x3350, "ユアン リットル リラ ルピー ルーブル レム レントゲン ワット 0点 1点"),
  (0x335A, "2点 3点 4点 5点 6点 7点 8点 9点 10点 11点 12点 13点 14点 15点 16点 17点 18点"),
  (0x336B, "19点 20点 21点 22点 23点 24点 hpa da au bar ov pc dm dm2 dm3 iu 平成 昭和 大正 明治"),
  (0x337F, "株式会社 pa na μa ma ka kb mb gb cal kcal pf nf μf μg mg kg hz khz mhz ghz thz μl ml dl"),
  (0x3398, "kl fm nm μm mm cm km mm2 cm2 m2 km2 mm3 cm3 m3 km3 m∕s m∕s2 pa kpa mpa gpa rad rad∕s"),
  (0x33AF, "rad∕s2 ps ns μs ms pv nv μv mv kv mv pw nw μw mw kw mw kω mω"), (0x33C3, "bq cc cd c∕kg"),
  (0x33C8, "db gy ha hp in kk km kt lm ln log lx mb mil mol ph"),
  (0x33D9, "ppm pr sr sv wb v∕m a∕m 1日 2日 3日 4日 5日 6日 7日 8日 9日 10日 11日 12日 13日"),
  (0x33ED, "14日 15日 16日 17日 18日 19日 20日 21日 22日 23日 24日 25日 26日 27日 28日 29日"),
  (0x33FD, "30日 31日 gal"), (0xA69C, "ъ ь"), (0xA770, "ꝯ"),
  (0xA779, "ꝺ ꝺ ꝼ ꝼ ᵹ ꝿ ꝿ ꞁ ꞁ ꞃ ꞃ ꞅ ꞅ ꞇ ꞇ ꞈ ꞉ ꞊ ꞌ ꞌ ɥ ꞎ ꞏ ꞑ"),
  (0xA791, "ꞑ ꞓ"), (0xA7AA, "ɦ ɜ ɡ ɬ ɪ ꞯ ʞ ʇ ʝ ꭓ"), (0xA7C4, "ꞔ ʂ ᶎ ꟈ ꟈ ꟊ ꟊ ɤ"),
  (0xA7DC, "ƛ"), (0xA7F1, "s c f q ꟶ ꟶ ꟷ ħ œ"), (0xAB5C, "ꜧ ꬷ ɫ ꭒ"), (0xAB69, "ʍ"),
  (0xF900, "豈 更 車 賈 滑 串 句 龜 龜 契 金 喇 奈 懶 癩 羅 蘿 螺 裸 邏 樂 洛 烙 珞"),
  (0xF918, "落 酪 駱 亂 卵 欄 爛 蘭 鸞 嵐 濫 藍 襤 拉 臘 蠟 廊 朗 浪 狼 郎 來 冷 勞"),
  (0xF930, "擄 櫓 爐 盧 老 蘆 虜 路 露 魯 鷺 碌 祿 綠 菉 錄 鹿 論 壟 弄 籠 聾 牢 磊"),
  (0xF948, "賂 雷 壘 屢 樓 淚 漏 累 縷 陋 勒 肋 凜 凌 稜 綾 菱 陵 讀 拏 樂 諾 丹 寧"),
  (0xF960, "怒 率 異 北 磻 便 復 不 泌 數 索 參 塞 省 葉 說 殺 辰 沈 拾 若 掠 略 亮"),
  (0xF978, "兩 凉 梁 糧 良 諒 量 勵 呂 女 廬 旅 濾 礪 閭 驪 麗 黎 力 曆 歷 轢 年 憐"),
  (0xF990, "戀 撚 漣 煉 璉 秊 練 聯 輦 蓮 連 鍊 列 劣 咽 烈 裂 說 廉 念 捻 殮 簾 獵"),
  (0xF9A8, "令 囹 寧 嶺 怜 玲 瑩 羚 聆 鈴 零 靈 領 例 禮 醴 隸 惡 了 僚 寮 尿 料 樂"),
  (0xF9C0, "燎 療 蓼 遼 龍 暈 阮 劉 杻 柳 流 溜 琉 留 硫 紐 類 六 戮 陸 倫 崙 淪 輪"),
  (0xF9D8, "律 慄 栗 率 隆 利 吏 履 易 李 梨 泥 理 痢 罹 裏 裡 里 離 匿 溺 吝 燐 璘"),
  (0xF9F0, "藺 隣 鱗 麟 林 淋 臨 立 笠 粒 狀 炙 識 什 茶 刺 切 度 拓 糖 宅 洞 暴 輻"),
  (0xFA08, "行 降 見 廓 兀 嗀 﨎 﨏 塚 﨑 晴 﨓 﨔 凞 猪 益 礼 神 祥 福 靖 精 羽 﨟"),
  (0xFA20, "蘒 﨡 諸 﨣 﨤 逸 都 﨧 﨨 﨩 飯 飼 館 鶴 郞 隷 侮 僧 免 勉 勤 卑 喝 嘆"),
  (0xFA38, "器 塀 墨 層 屮 悔 慨 憎 懲 敏 既 暑 梅 海 渚 漢 煮 爫 琢 碑 社 祉 祈 祐"),
  (0xFA50, "祖 祝 禍 禎 穀 突 節 練 縉 繁 署 者 臭 艹 艹 著 褐 視 謁 謹 賓 贈 辶 逸"),
  (0xFA68, "難 響 頻 恵 𤋮 舘"),
  (0xFA70, "並 况 全 侀 充 冀 勇 勺 喝 啕 喙 嗢 塚 墳 奄 奔 婢 嬨 廒 廙 彩 徭 惘 慎"),
  (0xFA88, "愈 憎 慠 懲 戴 揄 搜 摒 敖 晴 朗 望 杖 歹 殺 流 滛 滋 漢 瀞 煮 瞧 爵 犯"),
  (0xFAA0, "猪 瑱 甆 画 瘝 瘟 益 盛 直 睊 着 磌 窱 節 类 絛 練 缾 者 荒 華 蝹 襁 覆"),
  (0xFAB8, "視 調 諸 請 謁 諾 諭 謹 變 贈 輸 遲 醙 鉶 陼 難 靖 韛 響 頋 頻 鬒 龜 𢡊"),
  (0xFAD0, "𢡄 𣏕 㮝 䀘 䀹 𥉉 𥳐 𧻓 齃 龎"), (0xFB00, "ff fi fl ffi ffl st st"),
  (0xFB13, "մն մե մի վն մխ"),
  (0xFB1D, "יִ \ufb1e ײַ ע א ד ה כ ל ם ר ת + שׁ שׂ שּׁ שּׂ אַ אָ אּ בּ גּ"),
  (0xFB33, "דּ הּ וּ זּ"), (0xFB38, "טּ יּ ךּ כּ לּ"), (0xFB3E, "מּ"),
  (0xFB40, "נּ סּ"), (0xFB43, "ףּ פּ"),
  (0xFB46, "צּ קּ רּ שּ תּ וֹ בֿ כֿ פֿ אל ٱ ٱ ٻ ٻ ٻ ٻ پ پ پ پ ڀ ڀ ڀ ڀ ٺ ٺ"),
  (0xFB60, "ٺ ٺ ٿ ٿ ٿ ٿ ٹ ٹ ٹ ٹ ڤ ڤ ڤ ڤ ڦ ڦ ڦ ڦ ڄ ڄ ڄ ڄ ڃ ڃ ڃ ڃ چ چ چ چ ڇ ڇ"),
  (0xFB80, "ڇ ڇ ڍ ڍ ڌ ڌ ڎ ڎ ڈ ڈ ژ ژ ڑ ڑ ک ک ک ک گ گ گ گ ڳ ڳ ڳ ڳ ڱ ڱ ڱ ڱ ں ں"),
  (0xFBA0, "ڻ ڻ ڻ ڻ ۀ ۀ ہ ہ ہ ہ ھ ھ ھ ھ ے ے ۓ ۓ"),
  (0xFBD3, "ڭ ڭ ڭ ڭ ۇ ۇ ۆ ۆ ۈ ۈ ۇٴ ۋ ۋ ۅ ۅ ۉ ۉ ې ې ې ې ى ى ئا ئا ئە ئە ئو"),
  (0xFBEF, "ئو ئۇ ئۇ ئۆ ئۆ ئۈ ئۈ ئې ئې ئې ئى ئى ئى ی ی ی ی ئج ئح ئم ئى"),
  (0xFC04, "ئي بج بح بخ بم بى بي تج تح تخ تم تى تي ثج ثم ثى ثي جح جم"),
  (0xFC17, "حج حم خج خح خم سج سح سخ سم صح صم ضج ضح ضخ ضم طح طم ظم عج"),
  (0xFC2A, "عم غج غم فج فح فخ فم فى في قح قم قى قي كا كج كح كخ كل كم"),
  (0xFC3D, "كى كي لج لح لخ لم لى لي مج مح مخ مم مى مي نج نح نخ نم نى"),
  (0xFC50, "ني هج هم هى هي يج يح يخ يم يى يي ذٰ رٰ ىٰ"),
  (0xFC64, "ئر ئز ئم ئن ئى ئي بر بز بم بن بى بي تر تز تم تن تى تي ثر"),
  (0xFC77, "ثز ثم ثن ثى ثي فى في قى قي كا كل كم كى كي لم لى لي ما مم"),
  (0xFC8A, "نر نز نم نن نى ني ىٰ ير يز يم ين يى يي ئج ئح ئخ ئم ئه بج"),
  (0xFC9D, "بح بخ بم به تج تح تخ تم ته ثم جح جم حج حم خج خم سج سح سخ"),
  (0xFCB0, "سم صح صخ صم ضج ضح ضخ ضم طح ظم عج عم غج غم فج فح فخ فم قح"),
  (0xFCC3, "قم كج كح كخ كل كم لج لح لخ لم له مج مح مخ مم نج نح نخ نم"),
  (0xFCD6, "نه هج هم هٰ يج يح يخ يم يه ئم ئه بم به تم ته ثم ثه سم سه"),
  (0xFCE9, "شم شه كل كم لم نم نه يم يه ـَّ ـُّ ـِّ طى طي عى عي غى غي"),
  (0xFCFB, "سى سي شى شي حى حي جى جي خى خي صى صي ضى ضي شج شح شخ شم شر"),
  (0xFD0E, "سر صر ضر طى طي عى عي غى غي سى سي شى شي حى حي جى جي خى خي"),
  (0xFD21, "صى صي ضى ضي شج شح شخ شم شر سر صر ضر شج شح شخ شم سه شه طم"),
  (0xFD34, "سج سح سخ شج شح شخ طم ظم اً اً"),
  (0xFD50, "تجم تحج تحج تحم تخم تمج تمح تمخ جمح جمح حمي حمى سحج سجح"),
  (0xFD5E, "سجى سمح سمح سمج سمم سمم صحح صحح صمم شحم شحم شجي شمخ شمخ"),
  (0xFD6C, "شمم شمم ضحى ضخم ضخم طمح طمح طمم طمي عجم عمم عمم عمى غمم"),
  (0xFD7A, "غمي غمى فخم فخم قمح قمم لحم لحي لحى لجج لجج لخم لخم لمح"),
  (0xFD88, "لمح محج محم محي مجح مجم مخج مخم ﶐ ﶑ مجخ همج همم نحم"),
  (0xFD96, "نحى نجم نجم نجى نمي نمى يمم يمم بخي تجي تجى تخي تخى تمي"),
  (0xFDA4, "تمى جمي جحى جمى سخى صحي شحي ضحي لجي لمي يحي يجي يمي ممي"),
  (0xFDB2, "قمي نحي قمح لحم عمي كمي نجح مخي لجم كمم لجم نجح جحي حجي"),
  (0xFDC0, "مجي فمي بحي كمم عجم صمم سخي نجي"),
  (0xFDF0, "صلے قلے الله اكبر محمد صلعم رسول عليه وسلم صلى"),
  (0xFDFC, "ریال"), (0xFE10, ", 、"), (0xFE13, ": ; ! ? 〖 〗"),
  (0xFE31, "— – _ _ ( ) { } 〔 〕 【 】 《 》 〈 〉 「 」 『 』 ﹅ ﹆ [ ]"),
  (0xFE4D, "_ _ _ , 、"), (0xFE54, "; : ? ! — ( ) { } 〔 〕 # & * + - < > ="), (0xFE69, "$ % @"),
  (0xFE71, "ـً"), (0xFE77, "ـَ"), (0xFE79, "ـُ"), (0xFE7B, "ـِ"), (0xFE7D, "ـّ"),
  (0xFE7F, "ـْ ء آ آ أ أ ؤ ؤ إ إ ئ ئ ئ ئ ا ا ب ب ب ب ة ة ت ت ت ت ث ث ث ث ج ج"),
  (0xFE9F, "ج ج ح ح ح ح خ خ خ خ د د ذ ذ ر ر ز ز س س س س ش ش ش ش ص ص ص ص ض ض"),
  (0xFEBF, "ض ض ط ط ط ط ظ ظ ظ ظ ع ع ع ع غ غ غ غ ف ف ف ف ق ق ق ق ك ك ك ك ل ل"),
  (0xFEDF, "ل ل م م م م ن ن ن ن ه ه ه ه و و ى ى ي ي ي ي لآ لآ لأ لأ لإ لإ"),
  (0xFEFB, "لا لا"),
  (0xFF5F, "⦅ ⦆ . 「 」 、 ・ ヲ ァ ィ ゥ ェ ォ ャ ュ ョ ッ ー ア イ ウ エ オ カ キ"),
  (0xFF78, "ク ケ コ サ シ ス セ ソ タ チ ツ テ ト"),
  (0xFF8B, "ヒ フ ヘ ホ マ ミ ム メ モ ヤ ユ"), (0xFF9C, "ワ ン \u3099 \u309a"),
  (0xFFA1, "ᄀ ᄁ ᆪ ᄂ ᆬ ᆭ ᄃ ᄄ ᄅ"), (0xFFB0, "ᄚ ᄆ ᄇ ᄈ ᄡ"), (0xFFDA, "ᅳ ᅴ ᅵ"),
  (0xFFE0, "¢ £ ¬"), (0xFFE4, "¦ ¥ ₩"), (0xFFE8, "│ ← ↑ → ↓ ■ ○"), (0x10594, "𐖻 𐖼"),
  (0x10781, "ː ˑ æ ʙ ɓ"),
  (0x10787, "ʣ ꭦ ʥ ʤ ɖ ɗ ᶑ ɘ ɞ ʩ ɤ ɢ ɠ ʛ ħ ʜ ɧ ʄ ʪ ʫ ɬ 𝼄 ꞎ ɮ 𝼅 ʎ 𝼆 ø ɶ"),
  (0x107A4, "ɷ q ɺ 𝼈 ɽ ɾ ʀ ʨ ʦ ꭧ ʧ ʈ ⱱ"), (0x107B2, "ʏ ʡ ʢ ʘ ǀ ǁ ǂ 𝼊 𝼞"),
  (0x1D15E, "𝅗𝅥 𝅘𝅥 𝅘𝅥𝅮 𝅘𝅥𝅯 𝅘𝅥𝅰 𝅘𝅥𝅱 𝅘𝅥𝅲"),
  (0x1D1BB, "𝆹𝅥 𝆺𝅥 𝆹𝅥𝅮 𝆺𝅥𝅮 𝆹𝅥𝅯 𝆺𝅥𝅯"), (0x1D49C, "a"),
  (0x1D49E, "c d"), (0x1D4A2, "g"), (0x1D4A5, "j k"), (0x1D4A9, "n o p q"), (0x1D4B6, "a b c d"),
  (0x1D4BB, "f"), (0x1D504, "a b"), (0x1D507, "d e f g"), (0x1D538, "a b"), (0x1D53B, "d e f g"),
  (0x1D540, "i j k l m"), (0x1D546, "o"), (0x1D6A4, "ı ȷ"), (0x1D6B9, "θ"), (0x1D6C1, "∇"),
  (0x1D6D3, "σ"), (0x1D6DB, "∂ ε θ κ φ ρ π"), (0x1D6F3, "θ"), (0x1D6FB, "∇"), (0x1D70D, "σ"),
  (0x1D715, "∂ ε θ κ φ ρ π"), (0x1D72D, "θ"), (0x1D735, "∇"), (0x1D747, "σ"),
  (0x1D74F, "∂ ε θ κ φ ρ π"), (0x1D767, "θ"), (0x1D76F, "∇"), (0x1D781, "σ"),
  (0x1D789, "∂ ε θ κ φ ρ π"), (0x1D7A1, "θ"), (0x1D7A9, "∇"), (0x1D7BB, "σ"),
  (0x1D7C3, "∂ ε θ κ φ ρ π ϝ ϝ"), (0x1E039, "к л м"), (0x1E047, "ы э ю ꚉ ә і ј ө ү ӏ"),
  (0x1E05A, "к л о п с"), (0x1E065, "ъ ы ґ і ѕ џ ҫ ꙑ ұ"), (0x1EE00, "ا ب ج د"),
  (0x1EE05, "و ز ح ط ي ك ل م ن س ع ف ص ق ر ش ت ث خ ذ ض ظ غ ٮ ں ڡ ٯ"),
  (0x1EE21, "ب ج"), (0x1EE24, "ه"), (0x1EE27, "ح"), (0x1EE29, "ي ك ل م ن س ع ف ص ق"),
  (0x1EE34, "ش ت ث خ"), (0x1EE39, "ض"), (0x1EE3B, "غ"), (0x1EE42, "ج"), (0x1EE47, "ح"), (0x1EE49, "ي"),
  (0x1EE4B, "ل"), (0x1EE4D, "ن س ع"), (0x1EE51, "ص ق"), (0x1EE54, "ش"), (0x1EE57, "خ"), (0x1EE59, "ض"),
  (0x1EE5B, "غ"), (0x1EE5D, "ں"), (0x1EE5F, "ٯ"), (0x1EE61, "ب ج"), (0x1EE64, "ه"),
  (0x1EE67, "ح ط ي ك"), (0x1EE6C, "م ن س ع ف ص ق"), (0x1EE74, "ش ت ث خ"),
  (0x1EE79, "ض ظ غ ٮ"), (0x1EE7E, "ڡ"), (0x1EE80, "ا ب ج د ه و ز ح ط ي"),
  (0x1EE8B, "ل م ن س ع ف ص ق ر ش ت ث خ ذ ض ظ غ"), (0x1EEA1, "ب ج د"),
  (0x1EEA5, "و ز ح ط ي"), (0x1EEAB, "ل م ن س ع ف ص ق ر ش ت ث خ ذ ض ظ غ"),
  (0x1F101, "0, 1, 2, 3, 4, 5, 6, 7, 8, 9, 🄋 🄌 🄍 🄎 🄏 (a) (b) (c) (d) (e) (f) (g) (h) (i) (j)"),
  (0x1F11A, "(k) (l) (m) (n) (o) (p) (q) (r) (s) (t) (u) (v) (w) (x) (y) (z) 〔s〕 c r cd wz"),
  (0x1F14A, "hv mv sd ss ppv wc"), (0x1F16A, "mc md mr"), (0x1F190, "dj"), (0x1F200, "ほか ココ サ"),
  (0x1F210, "手 字 双 デ 二 多 解 天 交 映 無 料 前 後 再 新 初 終 生 販 声 吹 演 投"),
  (0x1F228, "捕 一 三 遊 左 中 右 指 走 打 禁 空 合 満 有 月 申 割 営 配"),
  (0x1F240, "〔本〕 〔三〕 〔二〕 〔安〕 〔点〕 〔打〕 〔盗〕 〔勝〕 〔敗〕"),
  (0x1F250, "得 可"),
  (0x2F800, "丽 丸 乁 𠄢 你 侮 侻 倂 偺 備 僧 像 㒞 𠘺 免 兔 兤 具 𠔜 㒹 內 再 𠕋"),
  (0x2F817, "冗 冤 仌 冬 况 𩇟 凵 刃 㓟 刻 剆 割 剷 㔕 勇 勉 勤 勺 包 匆 北 卉 卑 博"),
  (0x2F82F, "即 卽 卿 卿 卿 𠨬 灰 及 叟 𠭣 叫 叱 吆 咞 吸 呈 周 咢 哶 唐 啓 啣 善"),
  (0x2F846, "善 喙 喫 喳 嗂 圖 嘆 圗 噑 噴 切 壮 城 埴 堍 型 堲 報 墬 𡓤 売 壷 夆 多"),
  (0x2F85E, "夢 奢 𡚨 𡛪 姬 娛 娧 姘 婦 㛮 㛼 嬈 嬾 嬾 𡧈 寃 寘 寧 寳 𡬘 寿 将 当"),
  (0x2F875, "尢 㞁 屠 屮 峀 岍 𡷤 嵃 𡷦 嵮 嵫 嵼 巡 巢 㠯 巽 帨 帽 幩 㡢 𢆃 㡼 庰"),
  (0x2F88C, "庳 庶 廊 𪎒 廾 𢌱 𢌱 舁 弢 弢 㣇 𣊸 𦇚 形 彫 㣣 徚 忍 志 忹 悁 㤺 㤜"),
  (0x2F8A3, "悔 𢛔 惇 慈 慌 慎 慌 慺 憎 憲 憤 憯 懞 懲 懶 成 戛 扝 抱 拔 捐 𢬌 挽"),
  (0x2F8BA, "拼 捨 掃 揤 𢯱 搢 揅 掩 㨮 摩 摾 撝 摷 㩬 敏 敬 𣀊 旣 書 晉 㬙 暑 㬈"),
  (0x2F8D1, "㫤 冒 冕 最 暜 肭 䏙 朗 望 朡 杞 杓 𣏃 㭉 柺 枅 桒 梅 𣑭 梎 栟 椔 㮝"),
  (0x2F8E8, "楂 榣 槪 檨 𣚣 櫛 㰘 次 𣢧 歔 㱎 歲 殟 殺 殻 𣪍 𡴋 𣫺 汎 𣲼 沿 泍"),
  (0x2F8FE, "汧 洖 派 海 流 浩 浸 涅 𣴞 洴 港 湮 㴳 滋 滇 𣻑 淹 潮 𣽞 𣾎 濆 瀹 瀞"),
  (0x2F915, "瀛 㶖 灊 災 灷 炭 𠔥 煅 𤉣 熜 𤎫 爨 爵 牐 𤘈 犀 犕 𤜵 𤠔 獺 王 㺬"),
  (0x2F92B, "玥 㺸 㺸 瑇 瑜 瑱 璅 瓊 㼛 甤 𤰶 甾 𤲒 異 𢆟 瘐 𤾡 𤾸 𥁄 㿼 䀈 直"),
  (0x2F941, "𥃳 𥃲 𥄙 𥄳 眞 真 真 睊 䀹 瞋 䁆 䂖 𥐝 硎 碌 磌 䃣 𥘦 祖 𥚚 𥛅 福"),
  (0x2F957, "秫 䄯 穀 穊 穏 𥥼 𥪧 𥪧 竮 䈂 𥮫 篆 築 䈧 𥲀 糒 䊠 糨 糣 紀 𥾆 絣"),
  (0x2F96D, "䌁 緇 縂 繅 䌴 𦈨 𦉇 䍙 𦋙 罺 𦌾 羕 翺 者 𦓚 𦔣 聠 𦖨 聰 𣍟 䏕 育"),
  (0x2F983, "脃 䐋 脾 媵 𦞧 𦞵 𣎓 𣎜 舁 舄 辞 䑫 芑 芋 芝 劳 花 芳 芽 苦 𦬼 若 茝"),
  (0x2F99A, "荣 莭 茣 莽 菧 著 荓 菊 菌 菜 𦰶 𦵫 𦳕 䔫 蓱 蓳 蔖 𧏊 蕤 𦼬 䕝 䕡"),
  (0x2F9B0, "𦾱 𧃒 䕫 虐 虜 虧 虩 蚩 蚈 蜎 蛢 蝹 蜨 蝫 螆 䗗 蟡 蠁 䗹 衠 衣 𧙧 裗"),
  (0x2F9C7, "裞 䘵 裺 㒻 𧢮 𧥦 䚾 䛇 誠 諭 變 豕 𧲨 貫 賁 贛 起 𧼯 𠠄 跋 趼 跰"),
  (0x2F9DD, "𠣞 軔 輸 𨗒 𨗭 邔 郱 鄑 𨜮 鄛 鈸 鋗 鋘 鉼 鏹 鐕 𨯺 開 䦕 閷 𨵷 䧦"),
  (0x2F9F3, "雃 嶲 霣 𩅅 𩈚 䩮 䩶 韠 𩐊 䪲 𩒖 頋 頋 頩 𩖶 飢 䬳 餩 馧 駂 駾 䯎"),
  (0x2FA09, "𩬰 鬒 鱀 鳽 䳎 䳭 鵧 𪃎 䳸 𪄅 𪈎 𪊑 麻 䵖 黹 黾 鼅 鼏 鼖 鼻 𪘀")]

/-- The forms of a row, each with its character. -/
def formsFrom (first : Nat) (forms : String) : List (Nat × List Char) :=
  (splitAll (· = ' ') forms.toList).zipIdx.map fun (form, index) => (first + index, form)

def forms : List (Nat × List Char) := formRows.flatMap fun (first, forms) => formsFrom first forms

/-- Characters that only guide a display. -/
def ignoredRanges : List (Nat × Nat) := [
  (0xAD, 0xAD), (0x34F, 0x34F), (0x115F, 0x1160), (0x17B4, 0x17B5), (0x180B, 0x180F),
  (0x200B, 0x200B), (0x2060, 0x2064), (0x206A, 0x206F), (0x3164, 0x3164), (0xFE00, 0xFE0F),
  (0xFEFF, 0xFEFF), (0xFFA0, 0xFFA0), (0x1BCA0, 0x1BCA3), (0x1D173, 0x1D17A), (0xE0100, 0xE01EF)]

/-- Characters with a form that no name holds. Those with forms above are passed over here. -/
def refusedRanges : List (Nat × Nat) := [
  (0xA8, 0xA8), (0xAF, 0xAF), (0xB4, 0xB4), (0xB8, 0xB8), (0x2D8, 0x2DD), (0x37A, 0x37A),
  (0x384, 0x385), (0x1FBD, 0x1FC1), (0x1FCD, 0x1FCF), (0x1FDD, 0x1FDF), (0x1FED, 0x1FEE),
  (0x1FFD, 0x1FFE), (0x2017, 0x2017), (0x2024, 0x2026), (0x203E, 0x203E), (0x2488, 0x249B),
  (0x2FF0, 0x2FFF), (0x309B, 0x309C), (0x31EF, 0x31EF), (0x33C2, 0x33D8), (0xFC5E, 0xFC63),
  (0xFDFA, 0xFDFB), (0xFE12, 0xFE19), (0xFE30, 0xFE30), (0xFE49, 0xFE72), (0xFE74, 0xFFFD),
  (0x1F100, 0x1F100)]

/-- Whether a character that is not folded may be in a name: one that can be seen, a mark or a
joiner. All of ASCII is admitted here; which of it an address keeps for itself is not a matter of
folding. -/
def isAdmitted (c : Char) : Bool :=
  c.toNat < 0x80
    || ((isPrintable c || isMark c || Joining.isJoiner c) && !inRanges refusedRanges c)

def shifted? (c : Char) : Option Char :=
  (shiftRows.find? fun (first, last, step, _) =>
    first ≤ c.toNat && c.toNat ≤ last && (c.toNat - first) % step = 0).map
      fun (_, _, _, distance) => Char.ofNat (c.toNat + distance).toNat

/-- What a name holds for a character. -/
def form? (c : Char) : Option (List Char) :=
  if inRanges ignoredRanges c then some []
  else match shifted? c with
    | some small => some [small]
    | none =>
      match forms.find? (·.1 = c.toNat) with
      | some (_, form) => some form
      | none => if isAdmitted c then some [c] else none

def fold? (text : List Char) : Option (List Char) :=
  (text.mapM form?).map fun forms => composed forms.flatten

/-- Whether text is its own folded form. -/
def isFolded (text : List Char) : Bool := fold? text = some text

end Tenancy.Folding
