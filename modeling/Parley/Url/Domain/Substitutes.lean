/-!
# Substitutes for compatibility characters

Characters that stand for one or more other characters in a domain name: ligatures, letters in
special styles, squared words and compatibility ideographs.
-/

namespace Parley.Url

/-- Consecutive characters, and what each of them is replaced by, with blanks between. -/
structure SubstitutedRange where
  first : Nat
  last : Nat
  words : String

/-- The substitutes, in ascending order of the characters. -/
def substitutedRanges : List SubstitutedRange := [
    ⟨0xAA, 0xAA, "a"⟩, ⟨0xB2, 0xB3, "2 3"⟩, ⟨0xB5, 0xB5, "μ"⟩, ⟨0xB9, 0xBA, "1 o"⟩,
    ⟨0xBC, 0xBE, "1⁄4 1⁄2 3⁄4"⟩, ⟨0x130, 0x130, "i̇"⟩, ⟨0x132, 0x133, "ij ij"⟩,
    ⟨0x13F, 0x140, "l· l·"⟩, ⟨0x149, 0x149, "ʼn"⟩, ⟨0x178, 0x178, "ÿ"⟩, ⟨0x17F, 0x17F, "s"⟩,
    ⟨0x181, 0x181, "ɓ"⟩, ⟨0x186, 0x186, "ɔ"⟩, ⟨0x189, 0x18A, "ɖ ɗ"⟩, ⟨0x18E, 0x190, "ǝ ə ɛ"⟩,
    ⟨0x193, 0x194, "ɠ ɣ"⟩, ⟨0x196, 0x197, "ɩ ɨ"⟩, ⟨0x19C, 0x19D, "ɯ ɲ"⟩, ⟨0x19F, 0x19F, "ɵ"⟩,
    ⟨0x1A6, 0x1A6, "ʀ"⟩, ⟨0x1A9, 0x1A9, "ʃ"⟩, ⟨0x1AE, 0x1AE, "ʈ"⟩, ⟨0x1B1, 0x1B2, "ʊ ʋ"⟩,
    ⟨0x1B7, 0x1B7, "ʒ"⟩, ⟨0x1C4, 0x1CC, "dž dž dž lj lj lj nj nj nj"⟩, ⟨0x1F1, 0x1F3, "dz dz dz"⟩,
    ⟨0x1F6, 0x1F7, "ƕ ƿ"⟩, ⟨0x220, 0x220, "ƞ"⟩, ⟨0x23A, 0x23A, "ⱥ"⟩, ⟨0x23D, 0x23E, "ƚ ⱦ"⟩,
    ⟨0x243, 0x245, "ƀ ʉ ʌ"⟩, ⟨0x2B0, 0x2B8, "h ɦ j r ɹ ɻ ʁ w y"⟩, ⟨0x2E0, 0x2E4, "ɣ l s x ʕ"⟩,
    ⟨0x340, 0x341, "̀ ́"⟩, ⟨0x343, 0x345, "̓ ̈́ ι"⟩, ⟨0x374, 0x374, "ʹ"⟩, ⟨0x37E, 0x37F, "; ϳ"⟩,
    ⟨0x386, 0x38A, "ά · έ ή ί"⟩, ⟨0x38C, 0x38C, "ό"⟩, ⟨0x38E, 0x38F, "ύ ώ"⟩,
    ⟨0x3CF, 0x3D6, "ϗ β θ υ ύ ϋ φ π"⟩, ⟨0x3F0, 0x3F2, "κ ρ σ"⟩, ⟨0x3F4, 0x3F5, "θ ε"⟩,
    ⟨0x3F9, 0x3F9, "σ"⟩, ⟨0x3FD, 0x3FF, "ͻ ͼ ͽ"⟩, ⟨0x4C0, 0x4C0, "ӏ"⟩, ⟨0x587, 0x587, "եւ"⟩,
    ⟨0x675, 0x678, "اٴ وٴ ۇٴ يٴ"⟩, ⟨0x958, 0x95F, "क़ ख़ ग़ ज़ ड़ ढ़ फ़ य़"⟩,
    ⟨0x9DC, 0x9DD, "ড় ঢ়"⟩, ⟨0x9DF, 0x9DF, "য়"⟩, ⟨0xA33, 0xA33, "ਲ਼"⟩, ⟨0xA36, 0xA36, "ਸ਼"⟩,
    ⟨0xA59, 0xA5B, "ਖ਼ ਗ਼ ਜ਼"⟩, ⟨0xA5E, 0xA5E, "ਫ਼"⟩, ⟨0xB5C, 0xB5D, "ଡ଼ ଢ଼"⟩,
    ⟨0xE33, 0xE33, "ํา"⟩, ⟨0xEB3, 0xEB3, "ໍາ"⟩, ⟨0xEDC, 0xEDD, "ຫນ ຫມ"⟩, ⟨0xF0C, 0xF0C, "་"⟩,
    ⟨0xF43, 0xF43, "གྷ"⟩, ⟨0xF4D, 0xF4D, "ཌྷ"⟩, ⟨0xF52, 0xF52, "དྷ"⟩, ⟨0xF57, 0xF57, "བྷ"⟩,
    ⟨0xF5C, 0xF5C, "ཛྷ"⟩, ⟨0xF69, 0xF69, "ཀྵ"⟩, ⟨0xF73, 0xF73, "ཱི"⟩,
    ⟨0xF75, 0xF79, "ཱུ ྲྀ ྲཱྀ ླྀ ླཱྀ"⟩, ⟨0xF81, 0xF81, "ཱྀ"⟩, ⟨0xF93, 0xF93, "ྒྷ"⟩,
    ⟨0xF9D, 0xF9D, "ྜྷ"⟩, ⟨0xFA2, 0xFA2, "ྡྷ"⟩, ⟨0xFA7, 0xFA7, "ྦྷ"⟩, ⟨0xFAC, 0xFAC, "ྫྷ"⟩,
    ⟨0xFB9, 0xFB9, "ྐྵ"⟩, ⟨0x10C7, 0x10C7, "ⴧ"⟩, ⟨0x10CD, 0x10CD, "ⴭ"⟩, ⟨0x10FC, 0x10FC, "ნ"⟩,
    ⟨0x1C80, 0x1C88, "в д о с т т ъ ѣ ꙋ"⟩, ⟨0x1CBD, 0x1CBF, "ჽ ჾ ჿ"⟩, ⟨0x1D2C, 0x1D2E, "a æ b"⟩,
    ⟨0x1D30, 0x1D32, "d e ǝ"⟩, ⟨0x1D3C, 0x1D4D, "o ȣ p r t u w a ɐ ɑ ᴂ b d e ə ɛ ɜ g"⟩,
    ⟨0x1D4F, 0x1D6A, "k m ŋ o ɔ ᴖ ᴗ p t u ᴝ ɯ v ᴥ β γ δ φ χ i r u v β γ ρ φ χ"⟩,
    ⟨0x1D78, 0x1D78, "н"⟩,
    ⟨0x1D9B, 0x1DBA, "ɒ c ɕ ð ɜ f ɟ ɡ ɥ ɨ ɩ ɪ ᵻ ʝ ɭ ᶅ ʟ ɱ ɰ ɲ ɳ ɴ ɵ ɸ ʂ ʃ ƫ ʉ ʊ ᴜ ʋ ʌ"⟩,
    ⟨0x1DBB, 0x1DBF, "z ʐ ʑ ʒ θ"⟩, ⟨0x1E9A, 0x1E9B, "aʾ ṡ"⟩, ⟨0x1E9E, 0x1E9E, "ß"⟩,
    ⟨0x1F59, 0x1F59, "ὑ"⟩, ⟨0x1F5B, 0x1F5B, "ὓ"⟩, ⟨0x1F5D, 0x1F5D, "ὕ"⟩, ⟨0x1F5F, 0x1F5F, "ὗ"⟩,
    ⟨0x1F71, 0x1F71, "ά"⟩, ⟨0x1F73, 0x1F73, "έ"⟩, ⟨0x1F75, 0x1F75, "ή"⟩, ⟨0x1F77, 0x1F77, "ί"⟩,
    ⟨0x1F79, 0x1F79, "ό"⟩, ⟨0x1F7B, 0x1F7B, "ύ"⟩, ⟨0x1F7D, 0x1F7D, "ώ"⟩,
    ⟨0x1F80, 0x1F96, "ἀι ἁι ἂι ἃι ἄι ἅι ἆι ἇι ἀι ἁι ἂι ἃι ἄι ἅι ἆι ἇι ἠι ἡι ἢι ἣι ἤι ἥι ἦι"⟩,
    ⟨0x1F97, 0x1FAD, "ἧι ἠι ἡι ἢι ἣι ἤι ἥι ἦι ἧι ὠι ὡι ὢι ὣι ὤι ὥι ὦι ὧι ὠι ὡι ὢι ὣι ὤι ὥι"⟩,
    ⟨0x1FAE, 0x1FAF, "ὦι ὧι"⟩, ⟨0x1FB2, 0x1FB4, "ὰι αι άι"⟩, ⟨0x1FB7, 0x1FBC, "ᾶι ᾰ ᾱ ὰ ά αι"⟩,
    ⟨0x1FBE, 0x1FBE, "ι"⟩, ⟨0x1FC2, 0x1FC4, "ὴι ηι ήι"⟩, ⟨0x1FC7, 0x1FCC, "ῆι ὲ έ ὴ ή ηι"⟩,
    ⟨0x1FD3, 0x1FD3, "ΐ"⟩, ⟨0x1FD8, 0x1FDB, "ῐ ῑ ὶ ί"⟩, ⟨0x1FE3, 0x1FE3, "ΰ"⟩,
    ⟨0x1FE8, 0x1FEC, "ῠ ῡ ὺ ύ ῥ"⟩, ⟨0x1FF2, 0x1FF4, "ὼι ωι ώι"⟩, ⟨0x1FF7, 0x1FFC, "ῶι ὸ ό ὼ ώ ωι"⟩,
    ⟨0x2011, 0x2011, "‐"⟩, ⟨0x2033, 0x2034, "′′ ′′′"⟩, ⟨0x2036, 0x2037, "‵‵ ‵‵‵"⟩,
    ⟨0x203C, 0x203C, "!!"⟩, ⟨0x2047, 0x2049, "?? ?! !?"⟩, ⟨0x2057, 0x2057, "′′′′"⟩,
    ⟨0x2070, 0x2071, "0 i"⟩, ⟨0x207A, 0x207F, "+ − = ( ) n"⟩, ⟨0x208A, 0x208E, "+ − = ( )"⟩,
    ⟨0x2090, 0x209C, "a e o x ə h k l m n p s t"⟩, ⟨0x20A8, 0x20A8, "rs"⟩,
    ⟨0x2100, 0x2103, "a/c a/s c °c"⟩, ⟨0x2105, 0x2107, "c/o c/u ɛ"⟩,
    ⟨0x2109, 0x2113, "°f g h h h h ħ i i l l"⟩, ⟨0x2115, 0x2116, "n no"⟩,
    ⟨0x2119, 0x211D, "p q r r r"⟩, ⟨0x2120, 0x2122, "sm tel tm"⟩, ⟨0x2124, 0x2124, "z"⟩,
    ⟨0x2126, 0x2126, "ω"⟩, ⟨0x2128, 0x2128, "z"⟩, ⟨0x212A, 0x212D, "k å b c"⟩,
    ⟨0x212F, 0x2139, "e e f ⅎ m o א ב ג ד i"⟩, ⟨0x213B, 0x2140, "fax π γ γ π ∑"⟩,
    ⟨0x2145, 0x2149, "d d e i j"⟩,
    ⟨0x2150, 0x2161, "1⁄7 1⁄9 1⁄10 1⁄3 2⁄3 1⁄5 2⁄5 3⁄5 4⁄5 1⁄6 5⁄6 1⁄8 3⁄8 5⁄8 7⁄8 1⁄ i ii"⟩,
    ⟨0x2162, 0x2178, "iii iv v vi vii viii ix x xi xii l c d m i ii iii iv v vi vii viii ix"⟩,
    ⟨0x2179, 0x217F, "x xi xii l c d m"⟩, ⟨0x2189, 0x2189, "0⁄3"⟩, ⟨0x222C, 0x222D, "∫∫ ∫∫∫"⟩,
    ⟨0x222F, 0x2230, "∮∮ ∮∮∮"⟩, ⟨0x2329, 0x232A, "〈 〉"⟩,
    ⟨0x2469, 0x247C, "10 11 12 13 14 15 16 17 18 19 20 (1) (2) (3) (4) (5) (6) (7) (8) (9)"⟩,
    ⟨0x247D, 0x2487, "(10) (11) (12) (13) (14) (15) (16) (17) (18) (19) (20)"⟩,
    ⟨0x249C, 0x24AC, "(a) (b) (c) (d) (e) (f) (g) (h) (i) (j) (k) (l) (m) (n) (o) (p) (q)"⟩,
    ⟨0x24AD, 0x24B5, "(r) (s) (t) (u) (v) (w) (x) (y) (z)"⟩, ⟨0x24EA, 0x24EA, "0"⟩,
    ⟨0x2A0C, 0x2A0C, "∫∫∫∫"⟩, ⟨0x2A74, 0x2A76, "::= == ==="⟩, ⟨0x2ADC, 0x2ADC, "⫝̸"⟩,
    ⟨0x2C62, 0x2C64, "ɫ ᵽ ɽ"⟩, ⟨0x2C6D, 0x2C70, "ɑ ɱ ɐ ɒ"⟩, ⟨0x2C7C, 0x2C7F, "j v ȿ ɀ"⟩,
    ⟨0x2D6F, 0x2D6F, "ⵡ"⟩, ⟨0x2E9F, 0x2E9F, "母"⟩, ⟨0x2EF3, 0x2EF3, "龟"⟩,
    ⟨0x2F00, 0x2F1F, "一 丨 丶 丿 乙 亅 二 亠 人 儿 入 八 冂 冖 冫 几 凵 刀 力 勹 匕 匚 匸 十 卜 卩 厂 厶 又 口 囗 土"⟩,
    ⟨0x2F20, 0x2F3F, "士 夂 夊 夕 大 女 子 宀 寸 小 尢 尸 屮 山 巛 工 己 巾 干 幺 广 廴 廾 弋 弓 彐 彡 彳 心 戈 戶 手"⟩,
    ⟨0x2F40, 0x2F5F, "支 攴 文 斗 斤 方 无 日 曰 月 木 欠 止 歹 殳 毋 比 毛 氏 气 水 火 爪 父 爻 爿 片 牙 牛 犬 玄 玉"⟩,
    ⟨0x2F60, 0x2F7F, "瓜 瓦 甘 生 用 田 疋 疒 癶 白 皮 皿 目 矛 矢 石 示 禸 禾 穴 立 竹 米 糸 缶 网 羊 羽 老 而 耒 耳"⟩,
    ⟨0x2F80, 0x2F9F, "聿 肉 臣 自 至 臼 舌 舛 舟 艮 色 艸 虍 虫 血 行 衣 襾 見 角 言 谷 豆 豕 豸 貝 赤 走 足 身 車 辛"⟩,
    ⟨0x2FA0, 0x2FBF, "辰 辵 邑 酉 釆 里 金 長 門 阜 隶 隹 雨 靑 非 面 革 韋 韭 音 頁 風 飛 食 首 香 馬 骨 高 髟 鬥 鬯"⟩,
    ⟨0x2FC0, 0x2FD5, "鬲 鬼 魚 鳥 鹵 鹿 麥 麻 黃 黍 黑 黹 黽 鼎 鼓 鼠 鼻 齊 齒 龍 龜 龠"⟩, ⟨0x3002, 0x3002, "."⟩,
    ⟨0x3036, 0x3036, "〒"⟩, ⟨0x3038, 0x303A, "十 卄 卅"⟩, ⟨0x309F, 0x309F, "より"⟩,
    ⟨0x30FF, 0x30FF, "コト"⟩, ⟨0x3131, 0x3139, "ᄀ ᄁ ᆪ ᄂ ᆬ ᆭ ᄃ ᄄ ᄅ"⟩, ⟨0x3140, 0x3144, "ᄚ ᄆ ᄇ ᄈ ᄡ"⟩,
    ⟨0x3165, 0x3184, "ᄔ ᄕ ᇇ ᇈ ᇌ ᇎ ᇓ ᇗ ᇙ ᄜ ᇝ ᇟ ᄝ ᄞ ᄠ ᄢ ᄣ ᄧ ᄩ ᄫ ᄬ ᄭ ᄮ ᄯ ᄲ ᄶ ᅀ ᅇ ᅌ ᇱ ᇲ ᅗ"⟩,
    ⟨0x3185, 0x318E, "ᅘ ᅙ ᆄ ᆅ ᆈ ᆑ ᆒ ᆔ ᆞ ᆡ"⟩, ⟨0x3192, 0x319F, "一 二 三 四 上 中 下 甲 乙 丙 丁 天 地 人"⟩,
    ⟨0x3200, 0x3210, "(ᄀ) (ᄂ) (ᄃ) (ᄅ) (ᄆ) (ᄇ) (ᄉ) (ᄋ) (ᄌ) (ᄎ) (ᄏ) (ᄐ) (ᄑ) (ᄒ) (가) (나) (다)"⟩,
    ⟨0x3211, 0x321E, "(라) (마) (바) (사) (아) (자) (차) (카) (타) (파) (하) (주) (오전) (오후)"⟩,
    ⟨0x3220, 0x3230, "(一) (二) (三) (四) (五) (六) (七) (八) (九) (十) (月) (火) (水) (木) (金) (土) (日)"⟩,
    ⟨0x3231, 0x3241, "(株) (有) (社) (名) (特) (財) (祝) (労) (代) (呼) (学) (監) (企) (資) (協) (祭) (休)"⟩,
    ⟨0x3242, 0x3247, "(自) (至) 問 幼 文 箏"⟩,
    ⟨0x3250, 0x326A, "pte 21 22 23 24 25 26 27 28 29 30 31 32 33 34 35 ᄀ ᄂ ᄃ ᄅ ᄆ ᄇ ᄉ ᄋ ᄌ ᄎ ᄏ"⟩,
    ⟨0x326B, 0x327E, "ᄐ ᄑ ᄒ 가 나 다 라 마 바 사 아 자 차 카 타 파 하 참고 주의 우"⟩,
    ⟨0x3280, 0x329F, "一 二 三 四 五 六 七 八 九 十 月 火 水 木 金 土 日 株 有 社 名 特 財 祝 労 秘 男 女 適 優 印 注"⟩,
    ⟨0x32A0, 0x32BC, "項 休 写 正 上 中 下 左 右 医 宗 学 監 企 資 協 夜 36 37 38 39 40 41 42 43 44 45 46 47"⟩,
    ⟨0x32BD, 0x32D3, "48 49 50 1月 2月 3月 4月 5月 6月 7月 8月 9月 10月 11月 12月 hg erg ev ltd ア イ ウ エ"⟩,
    ⟨0x32D4, 0x32E3, "オ カ キ ク ケ コ サ シ ス セ ソ タ チ ツ テ ト"⟩, ⟨0x32EA, 0x32F4, "ヒ フ ヘ ホ マ ミ ム メ モ ヤ ユ"⟩,
    ⟨0x32FF, 0x330D, "令和 アパート アルファ アンペア アール イニング インチ ウォン エスクード エーカー オンス オーム カイリ カラット カロリー"⟩,
    ⟨0x330E, 0x331B, "ガロン ガンマ ギガ ギニー キュリー ギルダー キロ キログラム キロメートル キロワット グラム グラムトン クルゼイロ クローネ"⟩,
    ⟨0x331C, 0x332C, "ケース コルナ コーポ サイクル サンチーム シリング センチ セント ダース デシ ドル トン ナノ ノット ハイツ パーセント パーツ"⟩,
    ⟨0x332D, 0x333C, "バーレル ピアストル ピクル ピコ ビル ファラッド フィート ブッシェル フラン ヘクタール ペソ ペニヒ ヘルツ ペンス ページ ベータ"⟩,
    ⟨0x333D, 0x334C, "ポイント ボルト ホン ポンド ホール ホーン マイクロ マイル マッハ マルク マンション ミクロン ミリ ミリバール メガ メガトン"⟩,
    ⟨0x334D, 0x335F, "メートル ヤード ヤール ユアン リットル リラ ルピー ルーブル レム レントゲン ワット 0点 1点 2点 3点 4点 5点 6点 7点"⟩,
    ⟨0x3360, 0x3371, "8点 9点 10点 11点 12点 13点 14点 15点 16点 17点 18点 19点 20点 21点 22点 23点 24点 hpa"⟩,
    ⟨0x3372, 0x3387, "da au bar ov pc dm dm2 dm3 iu 平成 昭和 大正 明治 株式会社 pa na μa ma ka kb mb gb"⟩,
    ⟨0x3388, 0x339C, "cal kcal pf nf μf μg mg kg hz khz mhz ghz thz μl ml dl kl fm nm μm mm"⟩,
    ⟨0x339D, 0x33AE, "cm km mm2 cm2 m2 km2 mm3 cm3 m3 km3 m∕s m∕s2 pa kpa mpa gpa rad rad∕s"⟩,
    ⟨0x33AF, 0x33C1, "rad∕s2 ps ns μs ms pv nv μv mv kv mv pw nw μw mw kw mw kω mω"⟩,
    ⟨0x33C3, 0x33C6, "bq cc cd c∕kg"⟩,
    ⟨0x33C8, 0x33D7, "db gy ha hp in kk km kt lm ln log lx mb mil mol ph"⟩,
    ⟨0x33D9, 0x33ED, "ppm pr sr sv wb v∕m a∕m 1日 2日 3日 4日 5日 6日 7日 8日 9日 10日 11日 12日 13日 14日"⟩,
    ⟨0x33EE, 0x33FE, "15日 16日 17日 18日 19日 20日 21日 22日 23日 24日 25日 26日 27日 28日 29日 30日 31日"⟩,
    ⟨0x33FF, 0x33FF, "gal"⟩, ⟨0xA69C, 0xA69D, "ъ ь"⟩, ⟨0xA770, 0xA770, "ꝯ"⟩, ⟨0xA77D, 0xA77D, "ᵹ"⟩,
    ⟨0xA78D, 0xA78D, "ɥ"⟩, ⟨0xA7AA, 0xA7AE, "ɦ ɜ ɡ ɬ ɪ"⟩, ⟨0xA7B0, 0xA7B3, "ʞ ʇ ʝ ꭓ"⟩,
    ⟨0xA7C4, 0xA7C6, "ꞔ ʂ ᶎ"⟩, ⟨0xA7CB, 0xA7CB, "ɤ"⟩, ⟨0xA7DC, 0xA7DC, "ƛ"⟩,
    ⟨0xA7F1, 0xA7F4, "s c f q"⟩, ⟨0xA7F8, 0xA7F9, "ħ œ"⟩, ⟨0xAB5C, 0xAB5F, "ꜧ ꬷ ɫ ꭒ"⟩,
    ⟨0xAB69, 0xAB69, "ʍ"⟩,
    ⟨0xF900, 0xF91F, "豈 更 車 賈 滑 串 句 龜 龜 契 金 喇 奈 懶 癩 羅 蘿 螺 裸 邏 樂 洛 烙 珞 落 酪 駱 亂 卵 欄 爛 蘭"⟩,
    ⟨0xF920, 0xF93F, "鸞 嵐 濫 藍 襤 拉 臘 蠟 廊 朗 浪 狼 郎 來 冷 勞 擄 櫓 爐 盧 老 蘆 虜 路 露 魯 鷺 碌 祿 綠 菉 錄"⟩,
    ⟨0xF940, 0xF95F, "鹿 論 壟 弄 籠 聾 牢 磊 賂 雷 壘 屢 樓 淚 漏 累 縷 陋 勒 肋 凜 凌 稜 綾 菱 陵 讀 拏 樂 諾 丹 寧"⟩,
    ⟨0xF960, 0xF97F, "怒 率 異 北 磻 便 復 不 泌 數 索 參 塞 省 葉 說 殺 辰 沈 拾 若 掠 略 亮 兩 凉 梁 糧 良 諒 量 勵"⟩,
    ⟨0xF980, 0xF99F, "呂 女 廬 旅 濾 礪 閭 驪 麗 黎 力 曆 歷 轢 年 憐 戀 撚 漣 煉 璉 秊 練 聯 輦 蓮 連 鍊 列 劣 咽 烈"⟩,
    ⟨0xF9A0, 0xF9BF, "裂 說 廉 念 捻 殮 簾 獵 令 囹 寧 嶺 怜 玲 瑩 羚 聆 鈴 零 靈 領 例 禮 醴 隸 惡 了 僚 寮 尿 料 樂"⟩,
    ⟨0xF9C0, 0xF9DF, "燎 療 蓼 遼 龍 暈 阮 劉 杻 柳 流 溜 琉 留 硫 紐 類 六 戮 陸 倫 崙 淪 輪 律 慄 栗 率 隆 利 吏 履"⟩,
    ⟨0xF9E0, 0xF9FF, "易 李 梨 泥 理 痢 罹 裏 裡 里 離 匿 溺 吝 燐 璘 藺 隣 鱗 麟 林 淋 臨 立 笠 粒 狀 炙 識 什 茶 刺"⟩,
    ⟨0xFA00, 0xFA0D, "切 度 拓 糖 宅 洞 暴 輻 行 降 見 廓 兀 嗀"⟩, ⟨0xFA10, 0xFA10, "塚"⟩, ⟨0xFA12, 0xFA12, "晴"⟩,
    ⟨0xFA15, 0xFA1E, "凞 猪 益 礼 神 祥 福 靖 精 羽"⟩, ⟨0xFA20, 0xFA20, "蘒"⟩, ⟨0xFA22, 0xFA22, "諸"⟩,
    ⟨0xFA25, 0xFA26, "逸 都"⟩,
    ⟨0xFA2A, 0xFA49, "飯 飼 館 鶴 郞 隷 侮 僧 免 勉 勤 卑 喝 嘆 器 塀 墨 層 屮 悔 慨 憎 懲 敏 既 暑 梅 海 渚 漢 煮 爫"⟩,
    ⟨0xFA4A, 0xFA69, "琢 碑 社 祉 祈 祐 祖 祝 禍 禎 穀 突 節 練 縉 繁 署 者 臭 艹 艹 著 褐 視 謁 謹 賓 贈 辶 逸 難 響"⟩,
    ⟨0xFA6A, 0xFA6D, "頻 恵 𤋮 舘"⟩,
    ⟨0xFA70, 0xFA8F, "並 况 全 侀 充 冀 勇 勺 喝 啕 喙 嗢 塚 墳 奄 奔 婢 嬨 廒 廙 彩 徭 惘 慎 愈 憎 慠 懲 戴 揄 搜 摒"⟩,
    ⟨0xFA90, 0xFAAF, "敖 晴 朗 望 杖 歹 殺 流 滛 滋 漢 瀞 煮 瞧 爵 犯 猪 瑱 甆 画 瘝 瘟 益 盛 直 睊 着 磌 窱 節 类 絛"⟩,
    ⟨0xFAB0, 0xFACF, "練 缾 者 荒 華 蝹 襁 覆 視 調 諸 請 謁 諾 諭 謹 變 贈 輸 遲 醙 鉶 陼 難 靖 韛 響 頋 頻 鬒 龜 𢡊"⟩,
    ⟨0xFAD0, 0xFAD9, "𢡄 𣏕 㮝 䀘 䀹 𥉉 𥳐 𧻓 齃 龎"⟩, ⟨0xFB00, 0xFB06, "ff fi fl ffi ffl st st"⟩,
    ⟨0xFB13, 0xFB17, "մն մե մի վն մխ"⟩, ⟨0xFB1D, 0xFB1D, "יִ"⟩,
    ⟨0xFB1F, 0xFB36, "ײַ ע א ד ה כ ל ם ר ת + שׁ שׂ שּׁ שּׂ אַ אָ אּ בּ גּ דּ הּ וּ זּ"⟩,
    ⟨0xFB38, 0xFB3C, "טּ יּ ךּ כּ לּ"⟩, ⟨0xFB3E, 0xFB3E, "מּ"⟩, ⟨0xFB40, 0xFB41, "נּ סּ"⟩,
    ⟨0xFB43, 0xFB44, "ףּ פּ"⟩,
    ⟨0xFB46, 0xFB63, "צּ קּ רּ שּ תּ וֹ בֿ כֿ פֿ אל ٱ ٱ ٻ ٻ ٻ ٻ پ پ پ پ ڀ ڀ ڀ ڀ ٺ ٺ ٺ ٺ ٿ ٿ"⟩,
    ⟨0xFB64, 0xFB83, "ٿ ٿ ٹ ٹ ٹ ٹ ڤ ڤ ڤ ڤ ڦ ڦ ڦ ڦ ڄ ڄ ڄ ڄ ڃ ڃ ڃ ڃ چ چ چ چ ڇ ڇ ڇ ڇ ڍ ڍ"⟩,
    ⟨0xFB84, 0xFBA3, "ڌ ڌ ڎ ڎ ڈ ڈ ژ ژ ڑ ڑ ک ک ک ک گ گ گ گ ڳ ڳ ڳ ڳ ڱ ڱ ڱ ڱ ں ں ڻ ڻ ڻ ڻ"⟩,
    ⟨0xFBA4, 0xFBB1, "ۀ ۀ ہ ہ ہ ہ ھ ھ ھ ھ ے ے ۓ ۓ"⟩,
    ⟨0xFBD3, 0xFBF1, "ڭ ڭ ڭ ڭ ۇ ۇ ۆ ۆ ۈ ۈ ۇٴ ۋ ۋ ۅ ۅ ۉ ۉ ې ې ې ې ى ى ئا ئا ئە ئە ئو ئو ئۇ ئۇ"⟩,
    ⟨0xFBF2, 0xFC0A, "ئۆ ئۆ ئۈ ئۈ ئې ئې ئې ئى ئى ئى ی ی ی ی ئج ئح ئم ئى ئي بج بح بخ بم بى بي"⟩,
    ⟨0xFC0B, 0xFC21, "تج تح تخ تم تى تي ثج ثم ثى ثي جح جم حج حم خج خح خم سج سح سخ سم صح صم"⟩,
    ⟨0xFC22, 0xFC38, "ضج ضح ضخ ضم طح طم ظم عج عم غج غم فج فح فخ فم فى في قح قم قى قي كا كج"⟩,
    ⟨0xFC39, 0xFC4F, "كح كخ كل كم كى كي لج لح لخ لم لى لي مج مح مخ مم مى مي نج نح نخ نم نى"⟩,
    ⟨0xFC50, 0xFC5D, "ني هج هم هى هي يج يح يخ يم يى يي ذٰ رٰ ىٰ"⟩,
    ⟨0xFC64, 0xFC7A, "ئر ئز ئم ئن ئى ئي بر بز بم بن بى بي تر تز تم تن تى تي ثر ثز ثم ثن ثى"⟩,
    ⟨0xFC7B, 0xFC91, "ثي فى في قى قي كا كل كم كى كي لم لى لي ما مم نر نز نم نن نى ني ىٰ ير"⟩,
    ⟨0xFC92, 0xFCA8, "يز يم ين يى يي ئج ئح ئخ ئم ئه بج بح بخ بم به تج تح تخ تم ته ثم جح جم"⟩,
    ⟨0xFCA9, 0xFCBF, "حج حم خج خم سج سح سخ سم صح صخ صم ضج ضح ضخ ضم طح ظم عج عم غج غم فج فح"⟩,
    ⟨0xFCC0, 0xFCD6, "فخ فم قح قم كج كح كخ كل كم لج لح لخ لم له مج مح مخ مم نج نح نخ نم نه"⟩,
    ⟨0xFCD7, 0xFCED, "هج هم هٰ يج يح يخ يم يه ئم ئه بم به تم ته ثم ثه سم سه شم شه كل كم لم"⟩,
    ⟨0xFCEE, 0xFD03, "نم نه يم يه ـَّ ـُّ ـِّ طى طي عى عي غى غي سى سي شى شي حى حي جى جي خى"⟩,
    ⟨0xFD04, 0xFD1A, "خي صى صي ضى ضي شج شح شخ شم شر سر صر ضر طى طي عى عي غى غي سى سي شى شي"⟩,
    ⟨0xFD1B, 0xFD31, "حى حي جى جي خى خي صى صي ضى ضي شج شح شخ شم شر سر صر ضر شج شح شخ شم سه"⟩,
    ⟨0xFD32, 0xFD3D, "شه طم سج سح سخ شج شح شخ طم ظم اً اً"⟩,
    ⟨0xFD50, 0xFD60, "تجم تحج تحج تحم تخم تمج تمح تمخ جمح جمح حمي حمى سحج سجح سجى سمح سمح"⟩,
    ⟨0xFD61, 0xFD71, "سمج سمم سمم صحح صحح صمم شحم شحم شجي شمخ شمخ شمم شمم ضحى ضخم ضخم طمح"⟩,
    ⟨0xFD72, 0xFD82, "طمح طمم طمي عجم عمم عمم عمى غمم غمي غمى فخم فخم قمح قمم لحم لحي لحى"⟩,
    ⟨0xFD83, 0xFD8F, "لجج لجج لخم لخم لمح لمح محج محم محي مجح مجم مخج مخم"⟩,
    ⟨0xFD92, 0xFDA2, "مجخ همج همم نحم نحى نجم نجم نجى نمي نمى يمم يمم بخي تجي تجى تخي تخى"⟩,
    ⟨0xFDA3, 0xFDB3, "تمي تمى جمي جحى جمى سخى صحي شحي ضحي لجي لمي يحي يجي يمي ممي قمي نحي"⟩,
    ⟨0xFDB4, 0xFDC4, "قمح لحم عمي كمي نجح مخي لجم كمم لجم نجح جحي حجي مجي فمي بحي كمم عجم"⟩,
    ⟨0xFDC5, 0xFDC7, "صمم سخي نجي"⟩,
    ⟨0xFDF0, 0xFDF9, "صلے قلے الله اكبر محمد صلعم رسول عليه وسلم صلى"⟩, ⟨0xFDFC, 0xFDFC, "ریال"⟩,
    ⟨0xFE10, 0xFE11, ", 、"⟩, ⟨0xFE13, 0xFE18, ": ; ! ? 〖 〗"⟩, ⟨0xFE31, 0xFE36, "— – _ _ ( )"⟩,
    ⟨0xFE39, 0xFE44, "〔 〕 【 】 《 》 〈 〉 「 」 『 』"⟩, ⟨0xFE47, 0xFE48, "[ ]"⟩,
    ⟨0xFE4D, 0xFE51, "_ _ _ , 、"⟩, ⟨0xFE54, 0xFE5A, "; : ? ! — ( )"⟩,
    ⟨0xFE5D, 0xFE66, "〔 〕 # & * + - < > ="⟩, ⟨0xFE69, 0xFE6B, "$ % @"⟩, ⟨0xFE71, 0xFE71, "ـً"⟩,
    ⟨0xFE77, 0xFE77, "ـَ"⟩, ⟨0xFE79, 0xFE79, "ـُ"⟩, ⟨0xFE7B, 0xFE7B, "ـِ"⟩, ⟨0xFE7D, 0xFE7D, "ـّ"⟩,
    ⟨0xFE7F, 0xFE9E, "ـْ ء آ آ أ أ ؤ ؤ إ إ ئ ئ ئ ئ ا ا ب ب ب ب ة ة ت ت ت ت ث ث ث ث ج ج"⟩,
    ⟨0xFE9F, 0xFEBE, "ج ج ح ح ح ح خ خ خ خ د د ذ ذ ر ر ز ز س س س س ش ش ش ش ص ص ص ص ض ض"⟩,
    ⟨0xFEBF, 0xFEDE, "ض ض ط ط ط ط ظ ظ ظ ظ ع ع ع ع غ غ غ غ ف ف ف ف ق ق ق ق ك ك ك ك ل ل"⟩,
    ⟨0xFEDF, 0xFEFC, "ل ل م م م م ن ن ن ن ه ه ه ه و و ى ى ي ي ي ي لآ لآ لأ لأ لإ لإ لا لا"⟩,
    ⟨0xFF5F, 0xFF7E, "⦅ ⦆ . 「 」 、 ・ ヲ ァ ィ ゥ ェ ォ ャ ュ ョ ッ ー ア イ ウ エ オ カ キ ク ケ コ サ シ ス セ"⟩,
    ⟨0xFF7F, 0xFF84, "ソ タ チ ツ テ ト"⟩, ⟨0xFF8B, 0xFF95, "ヒ フ ヘ ホ マ ミ ム メ モ ヤ ユ"⟩,
    ⟨0xFF9C, 0xFF9F, "ワ ン ゙ ゚"⟩, ⟨0xFFA1, 0xFFA9, "ᄀ ᄁ ᆪ ᄂ ᆬ ᆭ ᄃ ᄄ ᄅ"⟩,
    ⟨0xFFB0, 0xFFB4, "ᄚ ᄆ ᄇ ᄈ ᄡ"⟩, ⟨0xFFDA, 0xFFDC, "ᅳ ᅴ ᅵ"⟩, ⟨0xFFE0, 0xFFE2, "¢ £ ¬"⟩,
    ⟨0xFFE4, 0xFFE6, "¦ ¥ ₩"⟩, ⟨0xFFE8, 0xFFEE, "│ ← ↑ → ↓ ■ ○"⟩, ⟨0x10594, 0x10595, "𐖻 𐖼"⟩,
    ⟨0x10781, 0x10785, "ː ˑ æ ʙ ɓ"⟩,
    ⟨0x10787, 0x107A6, "ʣ ꭦ ʥ ʤ ɖ ɗ ᶑ ɘ ɞ ʩ ɤ ɢ ɠ ʛ ħ ʜ ɧ ʄ ʪ ʫ ɬ 𝼄 ꞎ ɮ 𝼅 ʎ 𝼆 ø ɶ ɷ q ɺ"⟩,
    ⟨0x107A7, 0x107B0, "𝼈 ɽ ɾ ʀ ʨ ʦ ꭧ ʧ ʈ ⱱ"⟩, ⟨0x107B2, 0x107BA, "ʏ ʡ ʢ ʘ ǀ ǁ ǂ 𝼊 𝼞"⟩,
    ⟨0x1D15E, 0x1D164, "𝅗𝅥 𝅘𝅥 𝅘𝅥𝅮 𝅘𝅥𝅯 𝅘𝅥𝅰 𝅘𝅥𝅱 𝅘𝅥𝅲"⟩, ⟨0x1D1BB, 0x1D1C0, "𝆹𝅥 𝆺𝅥 𝆹𝅥𝅮 𝆺𝅥𝅮 𝆹𝅥𝅯 𝆺𝅥𝅯"⟩,
    ⟨0x1D49C, 0x1D49C, "a"⟩, ⟨0x1D49E, 0x1D49F, "c d"⟩, ⟨0x1D4A2, 0x1D4A2, "g"⟩,
    ⟨0x1D4A5, 0x1D4A6, "j k"⟩, ⟨0x1D4BB, 0x1D4BB, "f"⟩, ⟨0x1D504, 0x1D505, "a b"⟩,
    ⟨0x1D538, 0x1D539, "a b"⟩, ⟨0x1D546, 0x1D546, "o"⟩, ⟨0x1D6A4, 0x1D6A5, "ı ȷ"⟩,
    ⟨0x1D6B9, 0x1D6B9, "θ"⟩, ⟨0x1D6C1, 0x1D6C1, "∇"⟩, ⟨0x1D6D3, 0x1D6D3, "σ"⟩,
    ⟨0x1D6DB, 0x1D6E1, "∂ ε θ κ φ ρ π"⟩, ⟨0x1D6F3, 0x1D6F3, "θ"⟩, ⟨0x1D6FB, 0x1D6FB, "∇"⟩,
    ⟨0x1D70D, 0x1D70D, "σ"⟩, ⟨0x1D715, 0x1D71B, "∂ ε θ κ φ ρ π"⟩, ⟨0x1D72D, 0x1D72D, "θ"⟩,
    ⟨0x1D735, 0x1D735, "∇"⟩, ⟨0x1D747, 0x1D747, "σ"⟩, ⟨0x1D74F, 0x1D755, "∂ ε θ κ φ ρ π"⟩,
    ⟨0x1D767, 0x1D767, "θ"⟩, ⟨0x1D76F, 0x1D76F, "∇"⟩, ⟨0x1D781, 0x1D781, "σ"⟩,
    ⟨0x1D789, 0x1D78F, "∂ ε θ κ φ ρ π"⟩, ⟨0x1D7A1, 0x1D7A1, "θ"⟩, ⟨0x1D7A9, 0x1D7A9, "∇"⟩,
    ⟨0x1D7BB, 0x1D7BB, "σ"⟩, ⟨0x1D7C3, 0x1D7CB, "∂ ε θ κ φ ρ π ϝ ϝ"⟩, ⟨0x1E039, 0x1E03B, "к л м"⟩,
    ⟨0x1E047, 0x1E050, "ы э ю ꚉ ә і ј ө ү ӏ"⟩, ⟨0x1E05A, 0x1E05E, "к л о п с"⟩,
    ⟨0x1E065, 0x1E06D, "ъ ы ґ і ѕ џ ҫ ꙑ ұ"⟩, ⟨0x1EE00, 0x1EE03, "ا ب ج د"⟩,
    ⟨0x1EE05, 0x1EE1F, "و ز ح ط ي ك ل م ن س ع ف ص ق ر ش ت ث خ ذ ض ظ غ ٮ ں ڡ ٯ"⟩,
    ⟨0x1EE21, 0x1EE22, "ب ج"⟩, ⟨0x1EE24, 0x1EE24, "ه"⟩, ⟨0x1EE27, 0x1EE27, "ح"⟩,
    ⟨0x1EE29, 0x1EE32, "ي ك ل م ن س ع ف ص ق"⟩, ⟨0x1EE34, 0x1EE37, "ش ت ث خ"⟩,
    ⟨0x1EE39, 0x1EE39, "ض"⟩, ⟨0x1EE3B, 0x1EE3B, "غ"⟩, ⟨0x1EE42, 0x1EE42, "ج"⟩,
    ⟨0x1EE47, 0x1EE47, "ح"⟩, ⟨0x1EE49, 0x1EE49, "ي"⟩, ⟨0x1EE4B, 0x1EE4B, "ل"⟩,
    ⟨0x1EE4D, 0x1EE4F, "ن س ع"⟩, ⟨0x1EE51, 0x1EE52, "ص ق"⟩, ⟨0x1EE54, 0x1EE54, "ش"⟩,
    ⟨0x1EE57, 0x1EE57, "خ"⟩, ⟨0x1EE59, 0x1EE59, "ض"⟩, ⟨0x1EE5B, 0x1EE5B, "غ"⟩,
    ⟨0x1EE5D, 0x1EE5D, "ں"⟩, ⟨0x1EE5F, 0x1EE5F, "ٯ"⟩, ⟨0x1EE61, 0x1EE62, "ب ج"⟩,
    ⟨0x1EE64, 0x1EE64, "ه"⟩, ⟨0x1EE67, 0x1EE6A, "ح ط ي ك"⟩, ⟨0x1EE6C, 0x1EE72, "م ن س ع ف ص ق"⟩,
    ⟨0x1EE74, 0x1EE77, "ش ت ث خ"⟩, ⟨0x1EE79, 0x1EE7C, "ض ظ غ ٮ"⟩, ⟨0x1EE7E, 0x1EE7E, "ڡ"⟩,
    ⟨0x1EE80, 0x1EE89, "ا ب ج د ه و ز ح ط ي"⟩,
    ⟨0x1EE8B, 0x1EE9B, "ل م ن س ع ف ص ق ر ش ت ث خ ذ ض ظ غ"⟩, ⟨0x1EEA1, 0x1EEA3, "ب ج د"⟩,
    ⟨0x1EEA5, 0x1EEA9, "و ز ح ط ي"⟩, ⟨0x1EEAB, 0x1EEBB, "ل م ن س ع ف ص ق ر ش ت ث خ ذ ض ظ غ"⟩,
    ⟨0x1F101, 0x1F10A, "0, 1, 2, 3, 4, 5, 6, 7, 8, 9,"⟩,
    ⟨0x1F110, 0x1F120, "(a) (b) (c) (d) (e) (f) (g) (h) (i) (j) (k) (l) (m) (n) (o) (p) (q)"⟩,
    ⟨0x1F121, 0x1F12E, "(r) (s) (t) (u) (v) (w) (x) (y) (z) 〔s〕 c r cd wz"⟩,
    ⟨0x1F14A, 0x1F14F, "hv mv sd ss ppv wc"⟩, ⟨0x1F16A, 0x1F16C, "mc md mr"⟩,
    ⟨0x1F190, 0x1F190, "dj"⟩, ⟨0x1F200, 0x1F202, "ほか ココ サ"⟩,
    ⟨0x1F210, 0x1F22F, "手 字 双 デ 二 多 解 天 交 映 無 料 前 後 再 新 初 終 生 販 声 吹 演 投 捕 一 三 遊 左 中 右 指"⟩,
    ⟨0x1F230, 0x1F23B, "走 打 禁 空 合 満 有 月 申 割 営 配"⟩,
    ⟨0x1F240, 0x1F248, "〔本〕 〔三〕 〔二〕 〔安〕 〔点〕 〔打〕 〔盗〕 〔勝〕 〔敗〕"⟩, ⟨0x1F250, 0x1F251, "得 可"⟩,
    ⟨0x2F800, 0x2F81F, "丽 丸 乁 𠄢 你 侮 侻 倂 偺 備 僧 像 㒞 𠘺 免 兔 兤 具 𠔜 㒹 內 再 𠕋 冗 冤 仌 冬 况 𩇟 凵 刃 㓟"⟩,
    ⟨0x2F820, 0x2F83F, "刻 剆 割 剷 㔕 勇 勉 勤 勺 包 匆 北 卉 卑 博 即 卽 卿 卿 卿 𠨬 灰 及 叟 𠭣 叫 叱 吆 咞 吸 呈 周"⟩,
    ⟨0x2F840, 0x2F85F, "咢 哶 唐 啓 啣 善 善 喙 喫 喳 嗂 圖 嘆 圗 噑 噴 切 壮 城 埴 堍 型 堲 報 墬 𡓤 売 壷 夆 多 夢 奢"⟩,
    ⟨0x2F860, 0x2F87F, "𡚨 𡛪 姬 娛 娧 姘 婦 㛮 㛼 嬈 嬾 嬾 𡧈 寃 寘 寧 寳 𡬘 寿 将 当 尢 㞁 屠 屮 峀 岍 𡷤 嵃 𡷦 嵮 嵫"⟩,
    ⟨0x2F880, 0x2F89F, "嵼 巡 巢 㠯 巽 帨 帽 幩 㡢 𢆃 㡼 庰 庳 庶 廊 𪎒 廾 𢌱 𢌱 舁 弢 弢 㣇 𣊸 𦇚 形 彫 㣣 徚 忍 志 忹"⟩,
    ⟨0x2F8A0, 0x2F8BF, "悁 㤺 㤜 悔 𢛔 惇 慈 慌 慎 慌 慺 憎 憲 憤 憯 懞 懲 懶 成 戛 扝 抱 拔 捐 𢬌 挽 拼 捨 掃 揤 𢯱 搢"⟩,
    ⟨0x2F8C0, 0x2F8DF, "揅 掩 㨮 摩 摾 撝 摷 㩬 敏 敬 𣀊 旣 書 晉 㬙 暑 㬈 㫤 冒 冕 最 暜 肭 䏙 朗 望 朡 杞 杓 𣏃 㭉 柺"⟩,
    ⟨0x2F8E0, 0x2F8FF, "枅 桒 梅 𣑭 梎 栟 椔 㮝 楂 榣 槪 檨 𣚣 櫛 㰘 次 𣢧 歔 㱎 歲 殟 殺 殻 𣪍 𡴋 𣫺 汎 𣲼 沿 泍 汧 洖"⟩,
    ⟨0x2F900, 0x2F91F, "派 海 流 浩 浸 涅 𣴞 洴 港 湮 㴳 滋 滇 𣻑 淹 潮 𣽞 𣾎 濆 瀹 瀞 瀛 㶖 灊 災 灷 炭 𠔥 煅 𤉣 熜 𤎫"⟩,
    ⟨0x2F920, 0x2F93F, "爨 爵 牐 𤘈 犀 犕 𤜵 𤠔 獺 王 㺬 玥 㺸 㺸 瑇 瑜 瑱 璅 瓊 㼛 甤 𤰶 甾 𤲒 異 𢆟 瘐 𤾡 𤾸 𥁄 㿼 䀈"⟩,
    ⟨0x2F940, 0x2F95F, "直 𥃳 𥃲 𥄙 𥄳 眞 真 真 睊 䀹 瞋 䁆 䂖 𥐝 硎 碌 磌 䃣 𥘦 祖 𥚚 𥛅 福 秫 䄯 穀 穊 穏 𥥼 𥪧 𥪧 竮"⟩,
    ⟨0x2F960, 0x2F97F, "䈂 𥮫 篆 築 䈧 𥲀 糒 䊠 糨 糣 紀 𥾆 絣 䌁 緇 縂 繅 䌴 𦈨 𦉇 䍙 𦋙 罺 𦌾 羕 翺 者 𦓚 𦔣 聠 𦖨 聰"⟩,
    ⟨0x2F980, 0x2F99F, "𣍟 䏕 育 脃 䐋 脾 媵 𦞧 𦞵 𣎓 𣎜 舁 舄 辞 䑫 芑 芋 芝 劳 花 芳 芽 苦 𦬼 若 茝 荣 莭 茣 莽 菧 著"⟩,
    ⟨0x2F9A0, 0x2F9BF, "荓 菊 菌 菜 𦰶 𦵫 𦳕 䔫 蓱 蓳 蔖 𧏊 蕤 𦼬 䕝 䕡 𦾱 𧃒 䕫 虐 虜 虧 虩 蚩 蚈 蜎 蛢 蝹 蜨 蝫 螆 䗗"⟩,
    ⟨0x2F9C0, 0x2F9DF, "蟡 蠁 䗹 衠 衣 𧙧 裗 裞 䘵 裺 㒻 𧢮 𧥦 䚾 䛇 誠 諭 變 豕 𧲨 貫 賁 贛 起 𧼯 𠠄 跋 趼 跰 𠣞 軔 輸"⟩,
    ⟨0x2F9E0, 0x2F9FF, "𨗒 𨗭 邔 郱 鄑 𨜮 鄛 鈸 鋗 鋘 鉼 鏹 鐕 𨯺 開 䦕 閷 𨵷 䧦 雃 嶲 霣 𩅅 𩈚 䩮 䩶 韠 𩐊 䪲 𩒖 頋 頋"⟩,
    ⟨0x2FA00, 0x2FA1D, "頩 𩖶 飢 䬳 餩 馧 駂 駾 䯎 𩬰 鬒 鱀 鳽 䳎 䳭 鵧 𪃎 䳸 𪄅 𪈎 𪊑 麻 䵖 黹 黾 鼅 鼏 鼖 鼻 𪘀"⟩]

end Parley.Url
