/-!
# Characters of domain names that stand for words

* `wordRuns` : characters that become words of one or more characters in a domain name;
* `domainWord?` : the word that a character becomes.
-/

namespace ModuleBundler

/-- What the characters from a code on become, one after another, with blanks between. -/
structure WordRun where
  first : Nat
  words : String

/-- Characters that become words in a domain name, beside those that letters become by a rule and
those that the normal form of a text takes away. -/
def wordRuns : Array WordRun :=
  #[⟨0xaa, "a"⟩, ⟨0xb2, "2 3"⟩, ⟨0xb5, "μ"⟩, ⟨0xb9, "1 o"⟩, ⟨0xbc, "1⁄4 1⁄2 3⁄4"⟩,
   ⟨0x130, "i\u0307"⟩, ⟨0x132, "ij ij"⟩, ⟨0x13f, "l· l·"⟩, ⟨0x149, "ʼn"⟩, ⟨0x178, "ÿ"⟩,
   ⟨0x17f, "s"⟩, ⟨0x181, "ɓ"⟩, ⟨0x186, "ɔ"⟩, ⟨0x189, "ɖ ɗ"⟩, ⟨0x18e, "ǝ ə ɛ"⟩, ⟨0x193, "ɠ ɣ"⟩,
   ⟨0x196, "ɩ ɨ"⟩, ⟨0x19c, "ɯ ɲ"⟩, ⟨0x19f, "ɵ"⟩, ⟨0x1a6, "ʀ"⟩, ⟨0x1a9, "ʃ"⟩, ⟨0x1ae, "ʈ"⟩,
   ⟨0x1b1, "ʊ ʋ"⟩, ⟨0x1b7, "ʒ"⟩, ⟨0x1c4, "dž dž dž lj lj lj nj nj nj"⟩, ⟨0x1f1, "dz dz dz"⟩,
   ⟨0x1f6, "ƕ ƿ"⟩, ⟨0x220, "ƞ"⟩, ⟨0x23a, "ⱥ"⟩, ⟨0x23d, "ƚ ⱦ"⟩, ⟨0x243, "ƀ ʉ ʌ"⟩,
   ⟨0x2b0, "h ɦ j r ɹ ɻ ʁ w y"⟩, ⟨0x2e0, "ɣ l s x ʕ"⟩, ⟨0x345, "ι"⟩, ⟨0x37f, "ϳ"⟩, ⟨0x386, "ά"⟩,
   ⟨0x388, "έ ή ί"⟩, ⟨0x38c, "ό"⟩, ⟨0x38e, "ύ ώ"⟩, ⟨0x3cf, "ϗ β θ υ ύ ϋ φ π"⟩, ⟨0x3f0, "κ ρ σ"⟩,
   ⟨0x3f4, "θ ε"⟩, ⟨0x3f9, "σ"⟩, ⟨0x3fd, "ͻ ͼ ͽ"⟩, ⟨0x4c0, "ӏ"⟩, ⟨0x558, "է"⟩, ⟨0x587, "եւ"⟩,
   ⟨0x58b, "ի յ"⟩, ⟨0x675, "\u0627\u0674 \u0648\u0674 \u06c7\u0674 \u064a\u0674"⟩,
   ⟨0xe33, "\u0e4dา"⟩, ⟨0xeb3, "\u0ecdາ"⟩, ⟨0xedc, "ຫນ ຫມ"⟩, ⟨0xf0c, "་"⟩,
   ⟨0xf77, "\u0fb2\u0f71\u0f80"⟩, ⟨0xf79, "\u0fb3\u0f71\u0f80"⟩, ⟨0x10c7, "ⴧ"⟩, ⟨0x10cd, "ⴭ"⟩,
   ⟨0x10fc, "ნ"⟩, ⟨0x1c80, "в д о с т т ъ ѣ ꙋ"⟩, ⟨0x1cbd, "ჽ ჾ ჿ"⟩, ⟨0x1d2c, "a æ b"⟩,
   ⟨0x1d30, "d e ǝ"⟩, ⟨0x1d3c, "o ȣ p r t u w a ɐ ɑ ᴂ b d e ə ɛ ɜ g"⟩,
   ⟨0x1d4f, "k m ŋ o ɔ ᴖ ᴗ p t u ᴝ ɯ v ᴥ β γ δ φ χ i r u v β γ ρ φ χ"⟩, ⟨0x1d78, "н"⟩,
   ⟨0x1d9b, "ɒ c ɕ ð ɜ f ɟ ɡ ɥ ɨ ɩ ɪ ᵻ ʝ ɭ ᶅ ʟ ɱ ɰ"⟩, ⟨0x1db2, "ɸ ʂ ʃ ƫ ʉ ʊ ᴜ ʋ ʌ z ʐ ʑ ʒ θ"⟩,
   ⟨0x1e9a, "aʾ ṡ"⟩, ⟨0x1e9e, "ß"⟩, ⟨0x1f59, "ὑ"⟩, ⟨0x1f5b, "ὓ"⟩, ⟨0x1f5d, "ὕ"⟩, ⟨0x1f5f, "ὗ"⟩,
   ⟨0x1f80, "ἀι ἁι ἂι ἃι ἄι ἅι ἆι ἇι ἀι ἁι ἂι ἃι ἄι ἅι ἆι ἇι ἠι ἡι ἢι ἣι ἤι ἥι ἦι ἧι ἠι ἡι ἢι ἣι"⟩,
   ⟨0x1f9c, "ἤι ἥι ἦι ἧι ὠι ὡι ὢι ὣι ὤι ὥι ὦι ὧι ὠι ὡι ὢι ὣι ὤι ὥι ὦι ὧι"⟩, ⟨0x1fb2, "ὰι αι άι"⟩,
   ⟨0x1fb7, "ᾶι ᾰ ᾱ ὰ ά αι"⟩, ⟨0x1fc2, "ὴι ηι ήι"⟩, ⟨0x1fc7, "ῆι ὲ έ ὴ ή ηι"⟩, ⟨0x1fd8, "ῐ ῑ ὶ ί"⟩,
   ⟨0x1fe8, "ῠ ῡ ὺ ύ ῥ"⟩, ⟨0x1ff2, "ὼι ωι ώι"⟩, ⟨0x1ff7, "ῶι ὸ ό ὼ ώ ωι"⟩, ⟨0x2011, "‐"⟩,
   ⟨0x2033, "′′ ′′′"⟩, ⟨0x2036, "‵‵ ‵‵‵"⟩, ⟨0x203c, "!!"⟩, ⟨0x2047, "?? ?! !?"⟩, ⟨0x2057, "′′′′"⟩,
   ⟨0x2070, "0 i"⟩, ⟨0x207a, "+ − = ( ) n"⟩, ⟨0x208a, "+ − = ( )"⟩, ⟨0x2090, "a e o x ə h"⟩,
   ⟨0x209a, "p s t"⟩, ⟨0x20a8, "rs"⟩, ⟨0x2100, "a/c a/s c °c"⟩, ⟨0x2105, "c/o c/u ɛ"⟩,
   ⟨0x2109, "°f g h h h h ħ i i l l"⟩, ⟨0x2115, "n no"⟩, ⟨0x2119, "p q r r r"⟩,
   ⟨0x2120, "sm tel tm"⟩, ⟨0x2124, "z"⟩, ⟨0x2126, "ω"⟩, ⟨0x2128, "z"⟩, ⟨0x212a, "k å b c"⟩,
   ⟨0x212f, "e e f ⅎ m o"⟩, ⟨0x2139, "i"⟩, ⟨0x213b, "fax π γ γ π ∑"⟩, ⟨0x2145, "d d e i j"⟩,
   ⟨0x2150, "1⁄7 1⁄9 1⁄10 1⁄3 2⁄3 1⁄5 2⁄5 3⁄5 4⁄5 1⁄6 5⁄6 1⁄8 3⁄8 5⁄8 7⁄8 1⁄ i ii iii iv v vi"⟩,
   ⟨0x2166, "vii viii ix x xi xii l c d m i ii iii iv v vi vii viii ix x xi xii l c d m"⟩,
   ⟨0x2189, "0⁄3"⟩, ⟨0x222c, "∫∫ ∫∫∫"⟩, ⟨0x222f, "∮∮ ∮∮∮"⟩,
   ⟨0x2469, "10 11 12 13 14 15 16 17 18 19 20 (1) (2) (3) (4) (5) (6) (7) (8) (9) (10) (11) (12)"⟩,
   ⟨0x2480, "(13) (14) (15) (16) (17) (18) (19) (20)"⟩,
   ⟨0x249c, "(a) (b) (c) (d) (e) (f) (g) (h) (i) (j) (k) (l) (m) (n) (o) (p) (q) (r) (s) (t) (u)"⟩,
   ⟨0x24b1, "(v) (w) (x) (y) (z)"⟩, ⟨0x24ea, "0"⟩, ⟨0x2a0c, "∫∫∫∫"⟩, ⟨0x2a74, "::= == ==="⟩,
   ⟨0x2c62, "ɫ ᵽ ɽ"⟩, ⟨0x2c6d, "ɑ ɱ ɐ ɒ"⟩, ⟨0x2c7c, "j v ȿ ɀ"⟩, ⟨0x2d6f, "ⵡ"⟩, ⟨0x2e9f, "母"⟩,
   ⟨0x2ef3, "龟"⟩,
   ⟨0x2f00, "一 丨 丶 丿 乙 亅 二 亠 人 儿 入 八 冂 冖 冫 几 凵 刀 力 勹 匕 匚 匸 十 卜 卩 厂 厶 又 口 囗 土 士 夂 夊 夕 大 女 子 宀 寸 小"⟩,
   ⟨0x2f2a, "尢 尸 屮 山 巛 工 己 巾 干 幺 广 廴 廾 弋 弓 彐 彡 彳 心 戈 戶 手 支 攴 文 斗 斤 方 无 日 曰 月 木 欠 止 歹 殳 毋 比 毛 氏 气"⟩,
   ⟨0x2f54, "水 火 爪 父 爻 爿 片 牙 牛 犬 玄 玉 瓜 瓦 甘 生 用 田 疋 疒 癶 白 皮 皿 目 矛 矢 石 示 禸 禾 穴 立 竹 米 糸 缶 网 羊 羽 老 而"⟩,
   ⟨0x2f7e, "耒 耳 聿 肉 臣 自 至 臼 舌 舛 舟 艮 色 艸 虍 虫 血 行 衣 襾 見 角 言 谷 豆 豕 豸 貝 赤 走 足 身 車 辛 辰 辵 邑 酉 釆 里 金 長"⟩,
   ⟨0x2fa8, "門 阜 隶 隹 雨 靑 非 面 革 韋 韭 音 頁 風 飛 食 首 香 馬 骨 高 髟 鬥 鬯 鬲 鬼 魚 鳥 鹵 鹿 麥 麻 黃 黍 黑 黹 黽 鼎 鼓 鼠 鼻 齊"⟩,
   ⟨0x2fd2, "齒 龍 龜 龠"⟩, ⟨0x3002, "."⟩, ⟨0x3036, "〒"⟩, ⟨0x3038, "十 卄 卅"⟩, ⟨0x309f, "より"⟩,
   ⟨0x30ff, "コト"⟩, ⟨0x3131, "ᄀ ᄁ ᆪ ᄂ ᆬ ᆭ ᄃ ᄄ ᄅ"⟩, ⟨0x3140, "ᄚ ᄆ ᄇ ᄈ ᄡ"⟩,
   ⟨0x3165, "ᄔ ᄕ ᇇ ᇈ ᇌ ᇎ ᇓ ᇗ ᇙ ᄜ ᇝ ᇟ ᄝ ᄞ ᄠ ᄢ ᄣ ᄧ ᄩ"⟩,
   ⟨0x317d, "ᄲ ᄶ ᅀ ᅇ ᅌ ᇱ ᇲ ᅗ ᅘ ᅙ ᆄ ᆅ ᆈ ᆑ ᆒ ᆔ ᆞ ᆡ"⟩, ⟨0x3192, "一 二 三 四 上 中 下 甲 乙 丙 丁 天 地 人"⟩,
   ⟨0x3200, "(ᄀ) (ᄂ) (ᄃ) (ᄅ) (ᄆ) (ᄇ) (ᄉ) (ᄋ) (ᄌ) (ᄎ) (ᄏ) (ᄐ) (ᄑ) (ᄒ) (가) (나) (다) (라) (마) (바) (사)"⟩,
   ⟨0x3215, "(아) (자) (차) (카) (타) (파) (하) (주) (오전) (오후)"⟩,
   ⟨0x3220, "(一) (二) (三) (四) (五) (六) (七) (八) (九) (十) (月) (火) (水) (木) (金) (土) (日) (株) (有) (社) (名)"⟩,
   ⟨0x3235, "(特) (財) (祝) (労) (代) (呼) (学) (監) (企) (資) (協) (祭) (休) (自) (至) 問 幼 文 箏"⟩,
   ⟨0x3250, "pte 21 22 23 24 25 26 27 28 29 30 31 32 33 34 35 ᄀ ᄂ ᄃ ᄅ ᄆ ᄇ ᄉ ᄋ ᄌ"⟩,
   ⟨0x326e, "가 나 다 라 마 바 사 아 자 차 카 타 파 하 참고 주의 우"⟩,
   ⟨0x3280, "一 二 三 四 五 六 七 八 九 十 月 火 水 木 金 土 日 株 有 社 名 特 財 祝 労 秘 男 女 適 優 印 注 項 休 写 正 上 中 下 左 右 医"⟩,
   ⟨0x32aa, "宗 学 監 企 資 協 夜 36 37 38 39 40 41 42 43 44 45 46 47 48 49 50 1月 2月 3月 4月 5月 6月 7月 8月"⟩,
   ⟨0x32c8, "9月 10月 11月 12月 hg erg ev ltd ア イ ウ エ オ カ キ ク ケ コ サ シ ス セ ソ タ チ ツ テ ト"⟩,
   ⟨0x32ea, "ヒ フ ヘ ホ"⟩, ⟨0x32f3, "ヤ ユ"⟩,
   ⟨0x32ff, "令和 アパート アルファ アンペア アール イニング インチ ウォン エスクード エーカー オンス オーム カイリ カラット カロリー ガロン ガンマ ギガ ギニー"⟩,
   ⟨0x3312, "キュリー ギルダー キロ キログラム キロメートル キロワット グラム グラムトン クルゼイロ クローネ ケース コルナ コーポ サイクル サンチーム シリング"⟩,
   ⟨0x3322, "センチ セント ダース デシ ドル トン ナノ ノット ハイツ パーセント パーツ バーレル ピアストル ピクル ピコ ビル ファラッド フィート ブッシェル フラン"⟩,
   ⟨0x3336, "ヘクタール ペソ ペニヒ ヘルツ ペンス ページ ベータ ポイント ボルト ホン ポンド ホール ホーン マイクロ マイル マッハ マルク マンション ミクロン ミリ"⟩,
   ⟨0x334a, "ミリバール メガ メガトン メートル ヤード ヤール ユアン リットル リラ ルピー ルーブル レム レントゲン ワット 0点 1点 2点 3点 4点 5点 6点"⟩,
   ⟨0x335f, "7点 8点 9点 10点 11点 12点 13点 14点 15点 16点 17点 18点 19点 20点 21点 22点 23点 24点 hpa da au bar"⟩,
   ⟨0x3375, "ov pc dm dm2 dm3 iu 平成 昭和 大正 明治 株式会社 pa na μa ma ka kb mb gb cal kcal pf nf μf μg"⟩,
   ⟨0x338e, "mg kg hz khz mhz ghz thz μl ml dl kl fm nm μm mm cm km mm2 cm2 m2 km2 mm3 cm3 m3"⟩,
   ⟨0x33a6, "km3 m∕s m∕s2 pa kpa mpa gpa rad rad∕s rad∕s2 ps ns μs ms pv nv μv mv kv mv pw nw μw"⟩,
   ⟨0x33bd, "mw kw mw kω mω"⟩, ⟨0x33c3, "bq cc cd c∕kg"⟩,
   ⟨0x33c8, "db gy ha hp in kk km kt lm ln log lx mb mil mol ph"⟩,
   ⟨0x33d9, "ppm pr sr sv wb v∕m a∕m 1日 2日 3日 4日 5日 6日 7日 8日 9日 10日 11日 12日 13日 14日 15日 16日 17日"⟩,
   ⟨0x33f1, "18日 19日 20日 21日 22日 23日 24日 25日 26日 27日 28日 29日 30日 31日 gal"⟩, ⟨0xa69c, "ъ ь"⟩,
   ⟨0xa770, "ꝯ"⟩, ⟨0xa77d, "ᵹ"⟩, ⟨0xa78d, "ɥ"⟩, ⟨0xa7aa, "ɦ ɜ ɡ ɬ ɪ"⟩, ⟨0xa7b0, "ʞ ʇ ʝ ꭓ"⟩,
   ⟨0xa7c4, "ꞔ ʂ ᶎ"⟩, ⟨0xa7cb, "ɤ"⟩, ⟨0xa7dc, "ƛ"⟩, ⟨0xa7f1, "s c f q"⟩, ⟨0xa7f8, "ħ œ"⟩,
   ⟨0xab5c, "ꜧ ꬷ ɫ ꭒ"⟩, ⟨0xab69, "ʍ"⟩, ⟨0xfb00, "ff fi fl ffi ffl st st"⟩,
   ⟨0xfb13, "մն մե մի վն մխ"⟩,
   ⟨0xfb20, "\u05e2 \u05d0 \u05d3 \u05d4 \u05db \u05dc \u05dd \u05e8 \u05ea +"⟩,
   ⟨0xfb4f, "\u05d0\u05dc \u0671 \u0671 \u067b \u067b \u067b \u067b \u067e \u067e \u067e \u067e"⟩,
   ⟨0xfb5a, "\u0680 \u0680 \u0680 \u0680 \u067a \u067a \u067a \u067a \u067f \u067f \u067f \u067f"⟩,
   ⟨0xfb66, "\u0679 \u0679 \u0679 \u0679 \u06a4 \u06a4 \u06a4 \u06a4 \u06a6 \u06a6 \u06a6 \u06a6"⟩,
   ⟨0xfb72, "\u0684 \u0684 \u0684 \u0684 \u0683 \u0683 \u0683 \u0683 \u0686 \u0686 \u0686 \u0686"⟩,
   ⟨0xfb7e, "\u0687 \u0687 \u0687 \u0687 \u068d \u068d \u068c \u068c \u068e \u068e \u0688 \u0688"⟩,
   ⟨0xfb8a, "\u0698 \u0698 \u0691 \u0691 \u06a9 \u06a9 \u06a9 \u06a9 \u06af \u06af \u06af \u06af"⟩,
   ⟨0xfb96, "\u06b3 \u06b3 \u06b3 \u06b3 \u06b1 \u06b1 \u06b1 \u06b1 \u06ba \u06ba \u06bb \u06bb"⟩,
   ⟨0xfba2, "\u06bb \u06bb \u06c0 \u06c0 \u06c1 \u06c1 \u06c1 \u06c1 \u06be \u06be \u06be \u06be"⟩,
   ⟨0xfbae, "\u06d2 \u06d2 \u06d3 \u06d3"⟩,
   ⟨0xfbd3, "\u06ad \u06ad \u06ad \u06ad \u06c7 \u06c7 \u06c6 \u06c6 \u06c8 \u06c8 \u06c7\u0674"⟩,
   ⟨0xfbde, "\u06cb \u06cb \u06c5 \u06c5 \u06c9 \u06c9 \u06d0 \u06d0 \u06d0 \u06d0 \u0649 \u0649"⟩,
   ⟨0xfbea, "\u0626\u0627 \u0626\u0627 \u0626\u06d5 \u0626\u06d5 \u0626\u0648 \u0626\u0648"⟩,
   ⟨0xfbf0, "\u0626\u06c7 \u0626\u06c7 \u0626\u06c6 \u0626\u06c6 \u0626\u06c8 \u0626\u06c8"⟩,
   ⟨0xfbf6, "\u0626\u06d0 \u0626\u06d0 \u0626\u06d0 \u0626\u0649 \u0626\u0649 \u0626\u0649"⟩,
   ⟨0xfbfc, "\u06cc \u06cc \u06cc \u06cc \u0626\u062c \u0626\u062d \u0626\u0645 \u0626\u0649"⟩,
   ⟨0xfc04, "\u0626\u064a \u0628\u062c \u0628\u062d \u0628\u062e \u0628\u0645 \u0628\u0649"⟩,
   ⟨0xfc0a, "\u0628\u064a \u062a\u062c \u062a\u062d \u062a\u062e \u062a\u0645 \u062a\u0649"⟩,
   ⟨0xfc10, "\u062a\u064a \u062b\u062c \u062b\u0645 \u062b\u0649 \u062b\u064a \u062c\u062d"⟩,
   ⟨0xfc16, "\u062c\u0645 \u062d\u062c \u062d\u0645 \u062e\u062c \u062e\u062d \u062e\u0645"⟩,
   ⟨0xfc1c, "\u0633\u062c \u0633\u062d \u0633\u062e \u0633\u0645 \u0635\u062d \u0635\u0645"⟩,
   ⟨0xfc22, "\u0636\u062c \u0636\u062d \u0636\u062e \u0636\u0645 \u0637\u062d \u0637\u0645"⟩,
   ⟨0xfc28, "\u0638\u0645 \u0639\u062c \u0639\u0645 \u063a\u062c \u063a\u0645 \u0641\u062c"⟩,
   ⟨0xfc2e, "\u0641\u062d \u0641\u062e \u0641\u0645 \u0641\u0649 \u0641\u064a \u0642\u062d"⟩,
   ⟨0xfc34, "\u0642\u0645 \u0642\u0649 \u0642\u064a \u0643\u0627 \u0643\u062c \u0643\u062d"⟩,
   ⟨0xfc3a, "\u0643\u062e \u0643\u0644 \u0643\u0645 \u0643\u0649 \u0643\u064a \u0644\u062c"⟩,
   ⟨0xfc40, "\u0644\u062d \u0644\u062e \u0644\u0645 \u0644\u0649 \u0644\u064a \u0645\u062c"⟩,
   ⟨0xfc46, "\u0645\u062d \u0645\u062e \u0645\u0645 \u0645\u0649 \u0645\u064a \u0646\u062c"⟩,
   ⟨0xfc4c, "\u0646\u062d \u0646\u062e \u0646\u0645 \u0646\u0649 \u0646\u064a \u0647\u062c"⟩,
   ⟨0xfc52, "\u0647\u0645 \u0647\u0649 \u0647\u064a \u064a\u062c \u064a\u062d \u064a\u062e"⟩,
   ⟨0xfc58, "\u064a\u0645 \u064a\u0649 \u064a\u064a \u0630\u0670 \u0631\u0670 \u0649\u0670"⟩,
   ⟨0xfc64, "\u0626\u0631 \u0626\u0632 \u0626\u0645 \u0626\u0646 \u0626\u0649 \u0626\u064a"⟩,
   ⟨0xfc6a, "\u0628\u0631 \u0628\u0632 \u0628\u0645 \u0628\u0646 \u0628\u0649 \u0628\u064a"⟩,
   ⟨0xfc70, "\u062a\u0631 \u062a\u0632 \u062a\u0645 \u062a\u0646 \u062a\u0649 \u062a\u064a"⟩,
   ⟨0xfc76, "\u062b\u0631 \u062b\u0632 \u062b\u0645 \u062b\u0646 \u062b\u0649 \u062b\u064a"⟩,
   ⟨0xfc7c, "\u0641\u0649 \u0641\u064a \u0642\u0649 \u0642\u064a \u0643\u0627 \u0643\u0644"⟩,
   ⟨0xfc82, "\u0643\u0645 \u0643\u0649 \u0643\u064a \u0644\u0645 \u0644\u0649 \u0644\u064a"⟩,
   ⟨0xfc88, "\u0645\u0627 \u0645\u0645 \u0646\u0631 \u0646\u0632 \u0646\u0645 \u0646\u0646"⟩,
   ⟨0xfc8e, "\u0646\u0649 \u0646\u064a \u0649\u0670 \u064a\u0631 \u064a\u0632 \u064a\u0645"⟩,
   ⟨0xfc94, "\u064a\u0646 \u064a\u0649 \u064a\u064a \u0626\u062c \u0626\u062d \u0626\u062e"⟩,
   ⟨0xfc9a, "\u0626\u0645 \u0626\u0647 \u0628\u062c \u0628\u062d \u0628\u062e \u0628\u0645"⟩,
   ⟨0xfca0, "\u0628\u0647 \u062a\u062c \u062a\u062d \u062a\u062e \u062a\u0645 \u062a\u0647"⟩,
   ⟨0xfca6, "\u062b\u0645 \u062c\u062d \u062c\u0645 \u062d\u062c \u062d\u0645 \u062e\u062c"⟩,
   ⟨0xfcac, "\u062e\u0645 \u0633\u062c \u0633\u062d \u0633\u062e \u0633\u0645 \u0635\u062d"⟩,
   ⟨0xfcb2, "\u0635\u062e \u0635\u0645 \u0636\u062c \u0636\u062d \u0636\u062e \u0636\u0645"⟩,
   ⟨0xfcb8, "\u0637\u062d \u0638\u0645 \u0639\u062c \u0639\u0645 \u063a\u062c \u063a\u0645"⟩,
   ⟨0xfcbe, "\u0641\u062c \u0641\u062d \u0641\u062e \u0641\u0645 \u0642\u062d \u0642\u0645"⟩,
   ⟨0xfcc4, "\u0643\u062c \u0643\u062d \u0643\u062e \u0643\u0644 \u0643\u0645 \u0644\u062c"⟩,
   ⟨0xfcca, "\u0644\u062d \u0644\u062e \u0644\u0645 \u0644\u0647 \u0645\u062c \u0645\u062d"⟩,
   ⟨0xfcd0, "\u0645\u062e \u0645\u0645 \u0646\u062c \u0646\u062d \u0646\u062e \u0646\u0645"⟩,
   ⟨0xfcd6, "\u0646\u0647 \u0647\u062c \u0647\u0645 \u0647\u0670 \u064a\u062c \u064a\u062d"⟩,
   ⟨0xfcdc, "\u064a\u062e \u064a\u0645 \u064a\u0647 \u0626\u0645 \u0626\u0647 \u0628\u0645"⟩,
   ⟨0xfce2, "\u0628\u0647 \u062a\u0645 \u062a\u0647 \u062b\u0645 \u062b\u0647 \u0633\u0645"⟩,
   ⟨0xfce8, "\u0633\u0647 \u0634\u0645 \u0634\u0647 \u0643\u0644 \u0643\u0645 \u0644\u0645"⟩,
   ⟨0xfcee, "\u0646\u0645 \u0646\u0647 \u064a\u0645 \u064a\u0647 \u0640\u064e\u0651"⟩,
   ⟨0xfcf3, "\u0640\u064f\u0651 \u0640\u0650\u0651 \u0637\u0649 \u0637\u064a \u0639\u0649"⟩,
   ⟨0xfcf8, "\u0639\u064a \u063a\u0649 \u063a\u064a \u0633\u0649 \u0633\u064a \u0634\u0649"⟩,
   ⟨0xfcfe, "\u0634\u064a \u062d\u0649 \u062d\u064a \u062c\u0649 \u062c\u064a \u062e\u0649"⟩,
   ⟨0xfd04, "\u062e\u064a \u0635\u0649 \u0635\u064a \u0636\u0649 \u0636\u064a \u0634\u062c"⟩,
   ⟨0xfd0a, "\u0634\u062d \u0634\u062e \u0634\u0645 \u0634\u0631 \u0633\u0631 \u0635\u0631"⟩,
   ⟨0xfd10, "\u0636\u0631 \u0637\u0649 \u0637\u064a \u0639\u0649 \u0639\u064a \u063a\u0649"⟩,
   ⟨0xfd16, "\u063a\u064a \u0633\u0649 \u0633\u064a \u0634\u0649 \u0634\u064a \u062d\u0649"⟩,
   ⟨0xfd1c, "\u062d\u064a \u062c\u0649 \u062c\u064a \u062e\u0649 \u062e\u064a \u0635\u0649"⟩,
   ⟨0xfd22, "\u0635\u064a \u0636\u0649 \u0636\u064a \u0634\u062c \u0634\u062d \u0634\u062e"⟩,
   ⟨0xfd28, "\u0634\u0645 \u0634\u0631 \u0633\u0631 \u0635\u0631 \u0636\u0631 \u0634\u062c"⟩,
   ⟨0xfd2e, "\u0634\u062d \u0634\u062e \u0634\u0645 \u0633\u0647 \u0634\u0647 \u0637\u0645"⟩,
   ⟨0xfd34, "\u0633\u062c \u0633\u062d \u0633\u062e \u0634\u062c \u0634\u062d \u0634\u062e"⟩,
   ⟨0xfd3a, "\u0637\u0645 \u0638\u0645 \u0627\u064b \u0627\u064b"⟩,
   ⟨0xfd50, "\u062a\u062c\u0645 \u062a\u062d\u062c \u062a\u062d\u062c \u062a\u062d\u0645"⟩,
   ⟨0xfd54, "\u062a\u062e\u0645 \u062a\u0645\u062c \u062a\u0645\u062d \u062a\u0645\u062e"⟩,
   ⟨0xfd58, "\u062c\u0645\u062d \u062c\u0645\u062d \u062d\u0645\u064a \u062d\u0645\u0649"⟩,
   ⟨0xfd5c, "\u0633\u062d\u062c \u0633\u062c\u062d \u0633\u062c\u0649 \u0633\u0645\u062d"⟩,
   ⟨0xfd60, "\u0633\u0645\u062d \u0633\u0645\u062c \u0633\u0645\u0645 \u0633\u0645\u0645"⟩,
   ⟨0xfd64, "\u0635\u062d\u062d \u0635\u062d\u062d \u0635\u0645\u0645 \u0634\u062d\u0645"⟩,
   ⟨0xfd68, "\u0634\u062d\u0645 \u0634\u062c\u064a \u0634\u0645\u062e \u0634\u0645\u062e"⟩,
   ⟨0xfd6c, "\u0634\u0645\u0645 \u0634\u0645\u0645 \u0636\u062d\u0649 \u0636\u062e\u0645"⟩,
   ⟨0xfd70, "\u0636\u062e\u0645 \u0637\u0645\u062d \u0637\u0645\u062d \u0637\u0645\u0645"⟩,
   ⟨0xfd74, "\u0637\u0645\u064a \u0639\u062c\u0645 \u0639\u0645\u0645 \u0639\u0645\u0645"⟩,
   ⟨0xfd78, "\u0639\u0645\u0649 \u063a\u0645\u0645 \u063a\u0645\u064a \u063a\u0645\u0649"⟩,
   ⟨0xfd7c, "\u0641\u062e\u0645 \u0641\u062e\u0645 \u0642\u0645\u062d \u0642\u0645\u0645"⟩,
   ⟨0xfd80, "\u0644\u062d\u0645 \u0644\u062d\u064a \u0644\u062d\u0649 \u0644\u062c\u062c"⟩,
   ⟨0xfd84, "\u0644\u062c\u062c \u0644\u062e\u0645 \u0644\u062e\u0645 \u0644\u0645\u062d"⟩,
   ⟨0xfd88, "\u0644\u0645\u062d \u0645\u062d\u062c \u0645\u062d\u0645 \u0645\u062d\u064a"⟩,
   ⟨0xfd8c, "\u0645\u062c\u062d \u0645\u062c\u0645 \u0645\u062e\u062c \u0645\u062e\u0645"⟩,
   ⟨0xfd92, "\u0645\u062c\u062e \u0647\u0645\u062c \u0647\u0645\u0645 \u0646\u062d\u0645"⟩,
   ⟨0xfd96, "\u0646\u062d\u0649 \u0646\u062c\u0645 \u0646\u062c\u0645 \u0646\u062c\u0649"⟩,
   ⟨0xfd9a, "\u0646\u0645\u064a \u0646\u0645\u0649 \u064a\u0645\u0645 \u064a\u0645\u0645"⟩,
   ⟨0xfd9e, "\u0628\u062e\u064a \u062a\u062c\u064a \u062a\u062c\u0649 \u062a\u062e\u064a"⟩,
   ⟨0xfda2, "\u062a\u062e\u0649 \u062a\u0645\u064a \u062a\u0645\u0649 \u062c\u0645\u064a"⟩,
   ⟨0xfda6, "\u062c\u062d\u0649 \u062c\u0645\u0649 \u0633\u062e\u0649 \u0635\u062d\u064a"⟩,
   ⟨0xfdaa, "\u0634\u062d\u064a \u0636\u062d\u064a \u0644\u062c\u064a \u0644\u0645\u064a"⟩,
   ⟨0xfdae, "\u064a\u062d\u064a \u064a\u062c\u064a \u064a\u0645\u064a \u0645\u0645\u064a"⟩,
   ⟨0xfdb2, "\u0642\u0645\u064a \u0646\u062d\u064a \u0642\u0645\u062d \u0644\u062d\u0645"⟩,
   ⟨0xfdb6, "\u0639\u0645\u064a \u0643\u0645\u064a \u0646\u062c\u062d \u0645\u062e\u064a"⟩,
   ⟨0xfdba, "\u0644\u062c\u0645 \u0643\u0645\u0645 \u0644\u062c\u0645 \u0646\u062c\u062d"⟩,
   ⟨0xfdbe, "\u062c\u062d\u064a \u062d\u062c\u064a \u0645\u062c\u064a \u0641\u0645\u064a"⟩,
   ⟨0xfdc2, "\u0628\u062d\u064a \u0643\u0645\u0645 \u0639\u062c\u0645 \u0635\u0645\u0645"⟩,
   ⟨0xfdc6, "\u0633\u062e\u064a \u0646\u062c\u064a"⟩,
   ⟨0xfdf0, "\u0635\u0644\u06d2 \u0642\u0644\u06d2 \u0627\u0644\u0644\u0647"⟩,
   ⟨0xfdf3, "\u0627\u0643\u0628\u0631 \u0645\u062d\u0645\u062f \u0635\u0644\u0639\u0645"⟩,
   ⟨0xfdf6, "\u0631\u0633\u0648\u0644 \u0639\u0644\u064a\u0647 \u0648\u0633\u0644\u0645"⟩,
   ⟨0xfdf9, "\u0635\u0644\u0649"⟩, ⟨0xfdfc, "\u0631\u06cc\u0627\u0644"⟩, ⟨0xfe10, ", 、"⟩,
   ⟨0xfe13, ": ; ! ? 〖 〗"⟩, ⟨0xfe31, "— – _ _ ( ) \x7b \x7d 〔 〕 【 】 《 》 〈 〉"⟩, ⟨0xfe47, "[ ]"⟩,
   ⟨0xfe4d, "_ _ _ , 、"⟩, ⟨0xfe54, "; : ? ! — ( ) \x7b \x7d 〔 〕 # & * + - < > ="⟩,
   ⟨0xfe68, "\\ $ % @"⟩, ⟨0xfe71, "\u0640\u064b"⟩, ⟨0xfe77, "\u0640\u064e"⟩,
   ⟨0xfe79, "\u0640\u064f"⟩, ⟨0xfe7b, "\u0640\u0650"⟩, ⟨0xfe7d, "\u0640\u0651"⟩,
   ⟨0xfe7f, "\u0640\u0652 \u0621 \u0622 \u0622 \u0623 \u0623 \u0624 \u0624 \u0625 \u0625 \u0626"⟩,
   ⟨0xfe8a, "\u0626 \u0626 \u0626 \u0627 \u0627 \u0628 \u0628 \u0628 \u0628 \u0629 \u0629 \u062a"⟩,
   ⟨0xfe96, "\u062a \u062a \u062a \u062b \u062b \u062b \u062b \u062c \u062c \u062c \u062c \u062d"⟩,
   ⟨0xfea2, "\u062d \u062d \u062d \u062e \u062e \u062e \u062e \u062f \u062f \u0630 \u0630 \u0631"⟩,
   ⟨0xfeae, "\u0631 \u0632 \u0632 \u0633 \u0633 \u0633 \u0633 \u0634 \u0634 \u0634 \u0634 \u0635"⟩,
   ⟨0xfeba, "\u0635 \u0635 \u0635 \u0636 \u0636 \u0636 \u0636 \u0637 \u0637 \u0637 \u0637 \u0638"⟩,
   ⟨0xfec6, "\u0638 \u0638 \u0638 \u0639 \u0639 \u0639 \u0639 \u063a \u063a \u063a \u063a \u0641"⟩,
   ⟨0xfed2, "\u0641 \u0641 \u0641 \u0642 \u0642 \u0642 \u0642 \u0643 \u0643 \u0643 \u0643 \u0644"⟩,
   ⟨0xfede, "\u0644 \u0644 \u0644 \u0645 \u0645 \u0645 \u0645 \u0646 \u0646 \u0646 \u0646 \u0647"⟩,
   ⟨0xfeea, "\u0647 \u0647 \u0647 \u0648 \u0648 \u0649 \u0649 \u064a \u064a \u064a \u064a"⟩,
   ⟨0xfef5, "\u0644\u0622 \u0644\u0622 \u0644\u0623 \u0644\u0623 \u0644\u0625 \u0644\u0625"⟩,
   ⟨0xfefb, "\u0644\u0627 \u0644\u0627"⟩,
   ⟨0xff5f, "⦅ ⦆ . 「 」 、 ・ ヲ ァ ィ ゥ ェ ォ ャ ュ ョ ッ ー ア イ ウ エ オ カ キ ク ケ コ サ シ ス セ ソ タ チ ツ テ ト"⟩,
   ⟨0xff8b, "ヒ フ ヘ ホ"⟩, ⟨0xff94, "ヤ ユ"⟩, ⟨0xff9c, "ワ ン \u3099 \u309a"⟩,
   ⟨0xffa1, "ᄀ ᄁ ᆪ ᄂ ᆬ ᆭ ᄃ ᄄ ᄅ"⟩, ⟨0xffb0, "ᄚ ᄆ ᄇ ᄈ ᄡ"⟩, ⟨0xffda, "ᅳ ᅴ ᅵ"⟩, ⟨0xffe0, "¢ £ ¬"⟩,
   ⟨0xffe4, "¦ ¥ ₩"⟩, ⟨0xffe8, "│"⟩, ⟨0xffed, "■ ○"⟩, ⟨0x10594, "𐖻 𐖼"⟩, ⟨0x10781, "ː ˑ æ ʙ ɓ"⟩,
   ⟨0x10787, "ʣ ꭦ ʥ ʤ ɖ ɗ ᶑ ɘ ɞ ʩ ɤ ɢ ɠ ʛ ħ ʜ ɧ ʄ ʪ ʫ ɬ 𝼄 ꞎ ɮ 𝼅 ʎ 𝼆 ø ɶ ɷ q ɺ 𝼈 ɽ ɾ ʀ ʨ ʦ ꭧ ʧ ʈ"⟩,
   ⟨0x107b0, "ⱱ"⟩, ⟨0x107b2, "ʏ ʡ ʢ ʘ ǀ ǁ ǂ 𝼊 𝼞"⟩, ⟨0x1d49c, "a"⟩, ⟨0x1d49e, "c d"⟩, ⟨0x1d4a2, "g"⟩,
   ⟨0x1d4a5, "j k"⟩, ⟨0x1d4bb, "f"⟩, ⟨0x1d504, "a b"⟩, ⟨0x1d538, "a b"⟩, ⟨0x1d546, "o"⟩,
   ⟨0x1d6a4, "ı ȷ"⟩, ⟨0x1d6b9, "θ"⟩, ⟨0x1d6c1, "∇"⟩, ⟨0x1d6d3, "σ"⟩, ⟨0x1d6db, "∂ ε θ κ φ ρ π"⟩,
   ⟨0x1d6f3, "θ"⟩, ⟨0x1d6fb, "∇"⟩, ⟨0x1d70d, "σ"⟩, ⟨0x1d715, "∂ ε θ κ φ ρ π"⟩, ⟨0x1d72d, "θ"⟩,
   ⟨0x1d735, "∇"⟩, ⟨0x1d747, "σ"⟩, ⟨0x1d74f, "∂ ε θ κ φ ρ π"⟩, ⟨0x1d767, "θ"⟩, ⟨0x1d76f, "∇"⟩,
   ⟨0x1d781, "σ"⟩, ⟨0x1d789, "∂ ε θ κ φ ρ π"⟩, ⟨0x1d7a1, "θ"⟩, ⟨0x1d7a9, "∇"⟩, ⟨0x1d7bb, "σ"⟩,
   ⟨0x1d7c3, "∂ ε θ κ φ ρ π ϝ ϝ"⟩, ⟨0x1e039, "к л м"⟩, ⟨0x1e047, "ы э ю ꚉ ә і ј ө ү ӏ"⟩,
   ⟨0x1e05a, "к л о п с"⟩, ⟨0x1e065, "ъ ы ґ і ѕ џ ҫ ꙑ ұ"⟩, ⟨0x1ee00, "\u0627 \u0628 \u062c \u062f"⟩,
   ⟨0x1ee05, "\u0648 \u0632 \u062d \u0637 \u064a"⟩,
   ⟨0x1ee0e, "\u0633 \u0639 \u0641 \u0635 \u0642 \u0631 \u0634 \u062a \u062b \u062e \u0630"⟩,
   ⟨0x1ee19, "\u0636 \u0638 \u063a \u066e \u06ba \u06a1 \u066f"⟩, ⟨0x1ee21, "\u0628 \u062c"⟩,
   ⟨0x1ee24, "\u0647"⟩, ⟨0x1ee27, "\u062d"⟩, ⟨0x1ee29, "\u064a"⟩,
   ⟨0x1ee2e, "\u0633 \u0639 \u0641 \u0635 \u0642"⟩, ⟨0x1ee34, "\u0634 \u062a \u062b \u062e"⟩,
   ⟨0x1ee39, "\u0636"⟩, ⟨0x1ee3b, "\u063a"⟩, ⟨0x1ee42, "\u062c"⟩, ⟨0x1ee47, "\u062d"⟩,
   ⟨0x1ee49, "\u064a"⟩, ⟨0x1ee4b, "\u0644"⟩, ⟨0x1ee4d, "\u0646 \u0633 \u0639"⟩,
   ⟨0x1ee51, "\u0635 \u0642"⟩, ⟨0x1ee54, "\u0634"⟩, ⟨0x1ee57, "\u062e"⟩, ⟨0x1ee59, "\u0636"⟩,
   ⟨0x1ee5b, "\u063a"⟩, ⟨0x1ee5d, "\u06ba"⟩, ⟨0x1ee5f, "\u066f"⟩, ⟨0x1ee61, "\u0628 \u062c"⟩,
   ⟨0x1ee64, "\u0647"⟩, ⟨0x1ee67, "\u062d \u0637 \u064a \u0643"⟩,
   ⟨0x1ee6c, "\u0645 \u0646 \u0633 \u0639 \u0641 \u0635 \u0642"⟩,
   ⟨0x1ee74, "\u0634 \u062a \u062b \u062e"⟩, ⟨0x1ee79, "\u0636 \u0638 \u063a \u066e"⟩,
   ⟨0x1ee7e, "\u06a1"⟩,
   ⟨0x1ee80, "\u0627 \u0628 \u062c \u062f \u0647 \u0648 \u0632 \u062d \u0637 \u064a"⟩,
   ⟨0x1ee8b, "\u0644 \u0645 \u0646 \u0633 \u0639 \u0641 \u0635 \u0642 \u0631 \u0634 \u062a"⟩,
   ⟨0x1ee96, "\u062b \u062e \u0630 \u0636 \u0638 \u063a"⟩, ⟨0x1eea1, "\u0628 \u062c \u062f"⟩,
   ⟨0x1eea5, "\u0648 \u0632 \u062d \u0637 \u064a"⟩,
   ⟨0x1eeab, "\u0644 \u0645 \u0646 \u0633 \u0639 \u0641 \u0635 \u0642 \u0631 \u0634 \u062a"⟩,
   ⟨0x1eeb6, "\u062b \u062e \u0630 \u0636 \u0638 \u063a"⟩,
   ⟨0x1f101, "0, 1, 2, 3, 4, 5, 6, 7, 8, 9,"⟩,
   ⟨0x1f110, "(a) (b) (c) (d) (e) (f) (g) (h) (i) (j) (k) (l) (m) (n) (o) (p) (q) (r) (s) (t)"⟩,
   ⟨0x1f124, "(u) (v) (w) (x) (y) (z) 〔s〕 c r cd wz"⟩, ⟨0x1f14a, "hv mv sd ss ppv wc"⟩,
   ⟨0x1f16a, "mc md mr"⟩, ⟨0x1f190, "dj"⟩, ⟨0x1f200, "ほか ココ サ"⟩,
   ⟨0x1f210, "手 字 双 デ 二 多 解 天 交 映 無 料 前 後 再 新 初 終 生 販 声 吹 演 投 捕 一 三 遊 左 中 右 指 走 打 禁 空 合 満 有 月 申"⟩,
   ⟨0x1f239, "割 営 配"⟩, ⟨0x1f240, "〔本〕 〔三〕 〔二〕 〔安〕 〔点〕 〔打〕 〔盗〕 〔勝〕 〔敗〕"⟩, ⟨0x1f250, "得 可"⟩]

/-- The word that a character becomes. -/
def domainWord? (c : Char) : Option (List Char) := do
  let run ← wordRuns.findRev? fun r => r.first ≤ c.toNat
  let word ← (run.words.splitOn " ")[c.toNat - run.first]?
  pure word.toList

end ModuleBundler
