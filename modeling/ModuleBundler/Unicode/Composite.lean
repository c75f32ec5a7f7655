/-!
# Composite characters

* `accents` : the characters that stand for another one with a mark or sign after it;
* `decompositions`, `ideographs` : the characters that always give way to others;
* `split?` : what a character stands for; `join?` : the character that stands for two.

The syllables of Hangul follow a rule of their own and are in no table.
-/

namespace ModuleBundler.Composite

/-- A second character, the first characters to which it comes, and what each of them becomes. -/
structure Accent where
  second : Nat
  firsts : String
  composites : String

/-- The composites of Unicode that stay composed. -/
def accents : Array Accent :=
  #[⟨0x300, "AEIOUaeiouÜüNnЕИеиĒēŌōWwÂâĂăÊêÔôƠơƯưYyἀ", "ÀÈÌÒÙàèìòùǛǜǸǹЀЍѐѝḔḕṐṑẀẁẦầẰằỀềỒồỜờỪừỲỳἂ"⟩,
   ⟨0x300, "ἁἈἉἐἑἘἙἠἡἨἩἰἱἸἹὀὁὈὉὐὑὙὠὡὨὩαεηιουωΑΕΗ᾿ϊΙ", "ἃἊἋἒἓἚἛἢἣἪἫἲἳἺἻὂὃὊὋὒὓὛὢὣὪὫὰὲὴὶὸὺὼᾺῈῊ῍ῒῚ"⟩,
   ⟨0x300, "῾ϋΥ¨ΟΩ", "῝ῢῪ῭ῸῺ"⟩,
   ⟨0x301, "AEIOUYaeiouyCcLlNnRrSsZzÜüGgÅåÆæØø¨ΑΕΗΙ", "ÁÉÍÓÚÝáéíóúýĆćĹĺŃńŔŕŚśŹźǗǘǴǵǺǻǼǽǾǿ΅ΆΈΉΊ"⟩,
   ⟨0x301, "ΟΥΩϊαεηιϋουωϒГКгкÇçĒēÏïKkMmÕõŌōPpŨũWwÂâ", "ΌΎΏΐάέήίΰόύώϓЃЌѓќḈḉḖḗḮḯḰḱḾḿṌṍṒṓṔṕṸṹẂẃẤấ"⟩,
   ⟨0x301, "ĂăÊêÔôƠơƯưἀἁἈἉἐἑἘἙἠἡἨἩἰἱἸἹὀὁὈὉὐὑὙὠὡὨὩ᾿῾", "ẮắẾếỐốỚớỨứἄἅἌἍἔἕἜἝἤἥἬἭἴἵἼἽὄὅὌὍὔὕὝὤὥὬὭ῎῞"⟩,
   ⟨0x302, "AEIOUaeiouCcGgHhJjSsWwYyZzẠạẸẹỌọ", "ÂÊÎÔÛâêîôûĈĉĜĝĤĥĴĵŜŝŴŵŶŷẐẑẬậỆệỘộ"⟩,
   ⟨0x303, "ANOanoIiUuVvÂâĂăEeÊêÔôƠơƯưYy", "ÃÑÕãñõĨĩŨũṼṽẪẫẴẵẼẽỄễỖỗỠỡỮữỸỹ"⟩,
   ⟨0x304, "AaEeIiOoUuÜüÄäȦȧÆæǪǫÖöÕõȮȯYyИиУуGgḶḷṚṛα", "ĀāĒēĪīŌōŪūǕǖǞǟǠǡǢǣǬǭȪȫȬȭȰȱȲȳӢӣӮӯḠḡḸḹṜṝᾱ"⟩,
   ⟨0x304, "ΑιΙυΥ", "ᾹῑῙῡῩ"⟩,
   ⟨0x306, "AaEeGgIiOoUuУИиуЖжАаЕеȨȩẠạαΑιΙυΥ", "ĂăĔĕĞğĬĭŎŏŬŭЎЙйўӁӂӐӑӖӗḜḝẶặᾰᾸῐῘῠῨ"⟩,
   ⟨0x307, "CcEeGgIZzAaOoBbDdFfHhMmNnPpRrSsŚśŠšṢṣTt", "ĊċĖėĠġİŻżȦȧȮȯḂḃḊḋḞḟḢḣṀṁṄṅṖṗṘṙṠṡṤṥṦṧṨṩṪṫ"⟩,
   ⟨0x307, "WwXxYyſ𐗒𐗚", "ẆẇẊẋẎẏẛ𐗉𐗤"⟩,
   ⟨0x308, "AEIOUaeiouyYΙΥιυϒЕІеіАаӘәЖжЗзИиОоӨөЭэУу", "ÄËÏÖÜäëïöüÿŸΪΫϊϋϔЁЇёїӒӓӚӛӜӝӞӟӤӥӦӧӪӫӬӭӰӱ"⟩,
   ⟨0x308, "ЧчЫыHhÕõŪūWwXxt", "ӴӵӸӹḦḧṎṏṺṻẄẅẌẍẗ"⟩,
   ⟨0x309, "AaÂâĂăEeÊêIiOoÔôƠơUuƯưYy", "ẢảẨẩẲẳẺẻỂểỈỉỎỏỔổỞởỦủỬửỶỷ"⟩, ⟨0x30a, "AaUuwy", "ÅåŮůẘẙ"⟩,
   ⟨0x30b, "OoUuУу", "ŐőŰűӲӳ"⟩,
   ⟨0x30c, "CcDdEeLlNnRrSsTtZzAaIiOoUuÜüGgKkƷʒjHh", "ČčĎďĚěĽľŇňŘřŠšŤťŽžǍǎǏǐǑǒǓǔǙǚǦǧǨǩǮǯǰȞȟ"⟩,
   ⟨0x30f, "AaEeIiOoRrUuѴѵ", "ȀȁȄȅȈȉȌȍȐȑȔȕѶѷ"⟩, ⟨0x311, "AaEeIiOoRrUu", "ȂȃȆȇȊȋȎȏȒȓȖȗ"⟩,
   ⟨0x313, "αΑεΕηΗιΙοΟυωΩρ", "ἀἈἐἘἠἨἰἸὀὈὐὠὨῤ"⟩, ⟨0x314, "αΑεΕηΗιΙοΟυΥωΩρΡ", "ἁἉἑἙἡἩἱἹὁὉὑὙὡὩῥῬ"⟩,
   ⟨0x31b, "OoUu", "ƠơƯư"⟩,
   ⟨0x323, "BbDdHhKkLlMmNnRrSsTtVvWwZzAaEeIiOoƠơUuƯ", "ḄḅḌḍḤḥḲḳḶḷṂṃṆṇṚṛṢṣṬṭṾṿẈẉẒẓẠạẸẹỊịỌọỢợỤụỰ"⟩,
   ⟨0x323, "ưYy", "ựỴỵ"⟩, ⟨0x324, "Uu", "Ṳṳ"⟩, ⟨0x325, "Aa", "Ḁḁ"⟩, ⟨0x326, "SsTt", "ȘșȚț"⟩,
   ⟨0x327, "CcGgKkLlNnRrSsTtEeDdHh", "ÇçĢģĶķĻļŅņŖŗŞşŢţȨȩḐḑḨḩ"⟩, ⟨0x328, "AaEeIiUuOo", "ĄąĘęĮįŲųǪǫ"⟩,
   ⟨0x32d, "DdEeLlNnTtUu", "ḒḓḘḙḼḽṊṋṰṱṶṷ"⟩, ⟨0x32e, "Hh", "Ḫḫ"⟩, ⟨0x330, "EeIiUu", "ḚḛḬḭṴṵ"⟩,
   ⟨0x331, "BbDdKkLlNnRrTtZzh", "ḆḇḎḏḴḵḺḻṈṉṞṟṮṯẔẕẖ"⟩,
   ⟨0x338, "←→↔⇐⇔⇒∃∈∋∣∥∼≃≅≈=≡≍<>≤≥≲≳≶≷≺≻⊂⊃⊆⊇⊢⊨⊩⊫≼≽⊑", "↚↛↮⇍⇎⇏∄∉∌∤∦≁≄≇≉≠≢≭≮≯≰≱≴≵≸≹⊀⊁⊄⊅⊈⊉⊬⊭⊮⊯⋠⋡⋢"⟩,
   ⟨0x338, "⊒⊲⊳⊴⊵", "⋣⋪⋫⋬⋭"⟩,
   ⟨0x342, "ἀἁἈἉἠἡἨἩἰἱἸἹὐὑὙὠὡὨὩα¨η᾿ιϊ῾υϋω", "ἆἇἎἏἦἧἮἯἶἷἾἿὖὗὟὦὧὮὯᾶ῁ῆ῏ῖῗ῟ῦῧῶ"⟩,
   ⟨0x345, "ἀἁἂἃἄἅἆἇἈἉἊἋἌἍἎἏἠἡἢἣἤἥἦἧἨἩἪἫἬἭἮἯὠὡὢὣὤὥὦ", "ᾀᾁᾂᾃᾄᾅᾆᾇᾈᾉᾊᾋᾌᾍᾎᾏᾐᾑᾒᾓᾔᾕᾖᾗᾘᾙᾚᾛᾜᾝᾞᾟᾠᾡᾢᾣᾤᾥᾦ"⟩,
   ⟨0x345, "ὧὨὩὪὫὬὭὮὯὰαάᾶΑὴηήῆΗὼωώῶΩ", "ᾧᾨᾩᾪᾫᾬᾭᾮᾯᾲᾳᾴᾷᾼῂῃῄῇῌῲῳῴῷῼ"⟩, ⟨0x653, "\u0627", "\u0622"⟩,
   ⟨0x654, "\u0627\u0648\u064a\u06d5\u06c1\u06d2", "\u0623\u0624\u0626\u06c0\u06c2\u06d3"⟩,
   ⟨0x655, "\u0627", "\u0625"⟩, ⟨0x93c, "नरळ", "ऩऱऴ"⟩, ⟨0x9be, "\u09c7", "\u09cb"⟩,
   ⟨0x9d7, "\u09c7", "\u09cc"⟩, ⟨0xb3e, "\u0b47", "\u0b4b"⟩, ⟨0xb56, "\u0b47", "\u0b48"⟩,
   ⟨0xb57, "\u0b47", "\u0b4c"⟩, ⟨0xbbe, "\u0bc6\u0bc7", "\u0bca\u0bcb"⟩,
   ⟨0xbd7, "ஒ\u0bc6", "ஔ\u0bcc"⟩, ⟨0xc56, "\u0c46", "\u0c48"⟩, ⟨0xcc2, "\u0cc6", "\u0cca"⟩,
   ⟨0xcd5, "\u0cbf\u0cc6\u0cca", "\u0cc0\u0cc7\u0ccb"⟩, ⟨0xcd6, "\u0cc6", "\u0cc8"⟩,
   ⟨0xd3e, "\u0d46\u0d47", "\u0d4a\u0d4b"⟩, ⟨0xd57, "\u0d46", "\u0d4c"⟩,
   ⟨0xdca, "\u0dd9\u0ddc", "\u0dda\u0ddd"⟩, ⟨0xdcf, "\u0dd9", "\u0ddc"⟩,
   ⟨0xddf, "\u0dd9", "\u0dde"⟩, ⟨0x102e, "ဥ", "ဦ"⟩,
   ⟨0x1b35, "ᬅᬇᬉᬋᬍᬑ\u1b3a\u1b3c\u1b3e\u1b3f\u1b42", "ᬆᬈᬊᬌᬎᬒ\u1b3b\u1b3d\u1b40\u1b41\u1b43"⟩,
   ⟨0x3099, "かきくけこさしすせそたちつてとはひふへほうゝカキクケコサシスセソタチツテトハヒ", "がぎぐげござじずぜぞだぢづでどばびぶべぼゔゞガギグゲゴザジズゼゾダヂヅデドバビ"⟩,
   ⟨0x3099, "フヘホウワヰヱヲヽ", "ブベボヴヷヸヹヺヾ"⟩, ⟨0x309a, "はひふへほハヒフヘホ", "ぱぴぷぺぽパピプペポ"⟩,
   ⟨0x110ba, "𑂙𑂛𑂥", "𑂚𑂜𑂫"⟩, ⟨0x11127, "𑄱𑄲", "𑄮𑄯"⟩, ⟨0x1133e, "𑍇", "𑍋"⟩, ⟨0x11357, "𑍇", "𑍌"⟩,
   ⟨0x113b8, "𑏂", "𑏇"⟩, ⟨0x113bb, "𑎄", "𑎅"⟩, ⟨0x113c2, "𑎎", "𑎎𑏅"⟩, ⟨0x113c9, "𑎂𑎐𑏂", "𑎃𑎑𑏈"⟩,
   ⟨0x114b0, "𑒹", "𑒼"⟩, ⟨0x114ba, "𑒹", "𑒻"⟩, ⟨0x114bd, "𑒹", "𑒾"⟩, ⟨0x115af, "𑖸𑖹", "𑖺𑖻"⟩,
   ⟨0x11930, "𑤵", "𑤸"⟩, ⟨0x1611e, "𖄞", "𖄡"⟩, ⟨0x1611f, "𖄢𖄡𖄢", "𖄣𖄤𖄦𖄧"⟩, ⟨0x16120, "𖄡𖄞", "𖄥𖄨"⟩,
   ⟨0x16129, "𖄞", "𖄢"⟩, ⟨0x16d67, "𖵧𖵣𖵩", "𖵨𖵩𖵪"⟩]

/-- Characters that give way to others, with what they stand for in full. -/
def decompositions : Array (Nat × List Nat) :=
  #[(0x340, [0x300]), (0x341, [0x301]), (0x343, [0x313]), (0x344, [0x308, 0x301]), (0x374, [0x2b9]),
   (0x37e, [0x3b]), (0x387, [0xb7]), (0x958, [0x915, 0x93c]), (0x959, [0x916, 0x93c]),
   (0x95a, [0x917, 0x93c]), (0x95b, [0x91c, 0x93c]), (0x95c, [0x921, 0x93c]),
   (0x95d, [0x922, 0x93c]), (0x95e, [0x92b, 0x93c]), (0x95f, [0x92f, 0x93c]),
   (0x9dc, [0x9a1, 0x9bc]), (0x9dd, [0x9a2, 0x9bc]), (0x9df, [0x9af, 0x9bc]),
   (0xa33, [0xa32, 0xa3c]), (0xa36, [0xa38, 0xa3c]), (0xa59, [0xa16, 0xa3c]),
   (0xa5a, [0xa17, 0xa3c]), (0xa5b, [0xa1c, 0xa3c]), (0xa5e, [0xa2b, 0xa3c]),
   (0xb5c, [0xb21, 0xb3c]), (0xb5d, [0xb22, 0xb3c]), (0xf43, [0xf42, 0xfb7]),
   (0xf4d, [0xf4c, 0xfb7]), (0xf52, [0xf51, 0xfb7]), (0xf57, [0xf56, 0xfb7]),
   (0xf5c, [0xf5b, 0xfb7]), (0xf69, [0xf40, 0xfb5]), (0xf73, [0xf71, 0xf72]),
   (0xf75, [0xf71, 0xf74]), (0xf76, [0xfb2, 0xf80]), (0xf78, [0xfb3, 0xf80]),
   (0xf81, [0xf71, 0xf80]), (0xf93, [0xf92, 0xfb7]), (0xf9d, [0xf9c, 0xfb7]),
   (0xfa2, [0xfa1, 0xfb7]), (0xfa7, [0xfa6, 0xfb7]), (0xfac, [0xfab, 0xfb7]),
   (0xfb9, [0xf90, 0xfb5]), (0x1f71, [0x3b1, 0x301]), (0x1f73, [0x3b5, 0x301]),
   (0x1f75, [0x3b7, 0x301]), (0x1f77, [0x3b9, 0x301]), (0x1f79, [0x3bf, 0x301]),
   (0x1f7b, [0x3c5, 0x301]), (0x1f7d, [0x3c9, 0x301]), (0x1fbb, [0x391, 0x301]), (0x1fbe, [0x3b9]),
   (0x1fc9, [0x395, 0x301]), (0x1fcb, [0x397, 0x301]), (0x1fd3, [0x3b9, 0x308, 0x301]),
   (0x1fdb, [0x399, 0x301]), (0x1fe3, [0x3c5, 0x308, 0x301]), (0x1feb, [0x3a5, 0x301]),
   (0x1fee, [0xa8, 0x301]), (0x1fef, [0x60]), (0x1ff9, [0x39f, 0x301]), (0x1ffb, [0x3a9, 0x301]),
   (0x1ffd, [0xb4]), (0x2000, [0x2002]), (0x2001, [0x2003]), (0x2126, [0x3a9]), (0x212a, [0x4b]),
   (0x212b, [0x41, 0x30a]), (0x2329, [0x3008]), (0x232a, [0x3009]), (0x2adc, [0x2add, 0x338]),
   (0xfb1d, [0x5d9, 0x5b4]), (0xfb1f, [0x5f2, 0x5b7]), (0xfb2a, [0x5e9, 0x5c1]),
   (0xfb2b, [0x5e9, 0x5c2]), (0xfb2c, [0x5e9, 0x5bc, 0x5c1]), (0xfb2d, [0x5e9, 0x5bc, 0x5c2]),
   (0xfb2e, [0x5d0, 0x5b7]), (0xfb2f, [0x5d0, 0x5b8]), (0xfb30, [0x5d0, 0x5bc]),
   (0xfb31, [0x5d1, 0x5bc]), (0xfb32, [0x5d2, 0x5bc]), (0xfb33, [0x5d3, 0x5bc]),
   (0xfb34, [0x5d4, 0x5bc]), (0xfb35, [0x5d5, 0x5bc]), (0xfb36, [0x5d6, 0x5bc]),
   (0xfb38, [0x5d8, 0x5bc]), (0xfb39, [0x5d9, 0x5bc]), (0xfb3a, [0x5da, 0x5bc]),
   (0xfb3b, [0x5db, 0x5bc]), (0xfb3c, [0x5dc, 0x5bc]), (0xfb3e, [0x5de, 0x5bc]),
   (0xfb40, [0x5e0, 0x5bc]), (0xfb41, [0x5e1, 0x5bc]), (0xfb43, [0x5e3, 0x5bc]),
   (0xfb44, [0x5e4, 0x5bc]), (0xfb46, [0x5e6, 0x5bc]), (0xfb47, [0x5e7, 0x5bc]),
   (0xfb48, [0x5e8, 0x5bc]), (0xfb49, [0x5e9, 0x5bc]), (0xfb4a, [0x5ea, 0x5bc]),
   (0xfb4b, [0x5d5, 0x5b9]), (0xfb4c, [0x5d1, 0x5bf]), (0xfb4d, [0x5db, 0x5bf]),
   (0xfb4e, [0x5e4, 0x5bf]), (0x1d15e, [0x1d157, 0x1d165]), (0x1d15f, [0x1d158, 0x1d165]),
   (0x1d160, [0x1d158, 0x1d165, 0x1d16e]), (0x1d161, [0x1d158, 0x1d165, 0x1d16f]),
   (0x1d162, [0x1d158, 0x1d165, 0x1d170]), (0x1d163, [0x1d158, 0x1d165, 0x1d171]),
   (0x1d164, [0x1d158, 0x1d165, 0x1d172]), (0x1d1bb, [0x1d1b9, 0x1d165]),
   (0x1d1bc, [0x1d1ba, 0x1d165]), (0x1d1bd, [0x1d1b9, 0x1d165, 0x1d16e]),
   (0x1d1be, [0x1d1ba, 0x1d165, 0x1d16e]), (0x1d1bf, [0x1d1b9, 0x1d165, 0x1d16f]),
   (0x1d1c0, [0x1d1ba, 0x1d165, 0x1d16f])]

/-- Ideographs that give way to others: the code of the first of them, and what stands for each. -/
def ideographs : Array (Nat × String) :=
  #[⟨0xf900, "豈更車賈滑串句龜龜契金喇奈懶癩羅蘿螺裸邏樂洛烙珞落酪駱亂卵欄爛蘭鸞嵐濫藍襤拉臘蠟廊朗浪狼郎來冷勞擄櫓爐盧老蘆虜路露魯鷺碌祿綠菉錄鹿論壟弄籠聾牢磊賂雷壘屢樓淚漏累"⟩,
   ⟨0xf950, "縷陋勒肋凜凌稜綾菱陵讀拏樂諾丹寧怒率異北磻便復不泌數索參塞省葉說殺辰沈拾若掠略亮兩凉梁糧良諒量勵呂女廬旅濾礪閭驪麗黎力曆歷轢年憐戀撚漣煉璉秊練聯輦蓮連鍊列劣咽烈"⟩,
   ⟨0xf9a0, "裂說廉念捻殮簾獵令囹寧嶺怜玲瑩羚聆鈴零靈領例禮醴隸惡了僚寮尿料樂燎療蓼遼龍暈阮劉杻柳流溜琉留硫紐類六戮陸倫崙淪輪律慄栗率隆利吏履易李梨泥理痢罹裏裡里離匿溺吝燐璘"⟩,
   ⟨0xf9f0, "藺隣鱗麟林淋臨立笠粒狀炙識什茶刺切度拓糖宅洞暴輻行降見廓兀嗀"⟩,
   ⟨0xfa10, "塚"⟩,
   ⟨0xfa12, "晴"⟩,
   ⟨0xfa15, "凞猪益礼神祥福靖精羽"⟩,
   ⟨0xfa20, "蘒"⟩,
   ⟨0xfa22, "諸"⟩,
   ⟨0xfa25, "逸都"⟩,
   ⟨0xfa2a, "飯飼館鶴郞隷侮僧免勉勤卑喝嘆器塀墨層屮悔慨憎懲敏既暑梅海渚漢煮爫琢碑社祉祈祐祖祝禍禎穀突節練縉繁署者臭艹艹著褐視謁謹賓贈辶逸難響頻恵𤋮舘"⟩,
   ⟨0xfa70, "並况全侀充冀勇勺喝啕喙嗢塚墳奄奔婢嬨廒廙彩徭惘慎愈憎慠懲戴揄搜摒敖晴朗望杖歹殺流滛滋漢瀞煮瞧爵犯猪瑱甆画瘝瘟益盛直睊着磌窱節类絛練缾者荒華蝹襁覆視調諸請謁諾諭謹"⟩,
   ⟨0xfac0, "變贈輸遲醙鉶陼難靖韛響頋頻鬒龜𢡊𢡄𣏕㮝䀘䀹𥉉𥳐𧻓齃龎"⟩,
   ⟨0x2f800, "丽丸乁𠄢你侮侻倂偺備僧像㒞𠘺免兔兤具𠔜㒹內再𠕋冗冤仌冬况𩇟凵刃㓟刻剆割剷㔕勇勉勤勺包匆北卉卑博即卽卿卿卿𠨬灰及叟𠭣叫叱吆咞吸呈周咢哶唐啓啣善善喙喫喳嗂圖嘆圗噑噴"⟩,
   ⟨0x2f850, "切壮城埴堍型堲報墬𡓤売壷夆多夢奢𡚨𡛪姬娛娧姘婦㛮㛼嬈嬾嬾𡧈寃寘寧寳𡬘寿将当尢㞁屠屮峀岍𡷤嵃𡷦嵮嵫嵼巡巢㠯巽帨帽幩㡢𢆃㡼庰庳庶廊𪎒廾𢌱𢌱舁弢弢㣇𣊸𦇚形彫㣣徚忍志忹"⟩,
   ⟨0x2f8a0, "悁㤺㤜悔𢛔惇慈慌慎慌慺憎憲憤憯懞懲懶成戛扝抱拔捐𢬌挽拼捨掃揤𢯱搢揅掩㨮摩摾撝摷㩬敏敬𣀊旣書晉㬙暑㬈㫤冒冕最暜肭䏙朗望朡杞杓𣏃㭉柺枅桒梅𣑭梎栟椔㮝楂榣槪檨𣚣櫛㰘次"⟩,
   ⟨0x2f8f0, "𣢧歔㱎歲殟殺殻𣪍𡴋𣫺汎𣲼沿泍汧洖派海流浩浸涅𣴞洴港湮㴳滋滇𣻑淹潮𣽞𣾎濆瀹瀞瀛㶖灊災灷炭𠔥煅𤉣熜𤎫爨爵牐𤘈犀犕𤜵𤠔獺王㺬玥㺸㺸瑇瑜瑱璅瓊㼛甤𤰶甾𤲒異𢆟瘐𤾡𤾸𥁄㿼䀈"⟩,
   ⟨0x2f940, "直𥃳𥃲𥄙𥄳眞真真睊䀹瞋䁆䂖𥐝硎碌磌䃣𥘦祖𥚚𥛅福秫䄯穀穊穏𥥼𥪧𥪧竮䈂𥮫篆築䈧𥲀糒䊠糨糣紀𥾆絣䌁緇縂繅䌴𦈨𦉇䍙𦋙罺𦌾羕翺者𦓚𦔣聠𦖨聰𣍟䏕育脃䐋脾媵𦞧𦞵𣎓𣎜舁舄辞䑫芑"⟩,
   ⟨0x2f990, "芋芝劳花芳芽苦𦬼若茝荣莭茣莽菧著荓菊菌菜𦰶𦵫𦳕䔫蓱蓳蔖𧏊蕤𦼬䕝䕡𦾱𧃒䕫虐虜虧虩蚩蚈蜎蛢蝹蜨蝫螆䗗蟡蠁䗹衠衣𧙧裗裞䘵裺㒻𧢮𧥦䚾䛇誠諭變豕𧲨貫賁贛起𧼯𠠄跋趼跰𠣞軔輸"⟩,
   ⟨0x2f9e0, "𨗒𨗭邔郱鄑𨜮鄛鈸鋗鋘鉼鏹鐕𨯺開䦕閷𨵷䧦雃嶲霣𩅅𩈚䩮䩶韠𩐊䪲𩒖頋頋頩𩖶飢䬳餩馧駂駾䯎𩬰鬒鱀鳽䳎䳭鵧𪃎䳸𪄅𪈎𪊑麻䵖黹黾鼅鼏鼖鼻𪘀"⟩]

/-! ## Hangul -/

def firstLead : Nat := 0x1100

def firstVowel : Nat := 0x1161

/-- Comes before the tails, as a syllable may have none. -/
def beforeTails : Nat := 0x11a7

def firstSyllable : Nat := 0xac00

/-- What a syllable is made of: a syllable without tail and a tail, or a lead and a vowel. -/
def splitSyllable (code : Nat) : List Nat :=
  let index := code - firstSyllable
  if index % 28 = 0 then [firstLead + index / 588, firstVowel + index % 588 / 28]
  else [code - index % 28, beforeTails + index % 28]

/-- The syllable of a lead and a vowel, or of a syllable without tail and a tail. -/
def joinSyllable? (a b : Nat) : Option Nat :=
  if firstLead ≤ a ∧ a < firstLead + 19 ∧ firstVowel ≤ b ∧ b < firstVowel + 21 then
    some (firstSyllable + (a - firstLead) * 588 + (b - firstVowel) * 28)
  else if firstSyllable ≤ a ∧ a < firstSyllable + 11172 ∧ (a - firstSyllable) % 28 = 0 ∧
      beforeTails < b ∧ b < beforeTails + 28 then
    some (a + (b - beforeTails))
  else none

/-! ## All characters -/

/-- The character of the second list at the place that a character has in the first. -/
def counterpart? (c : Char) (wanted found : String) : Option Char := do
  let i ← wanted.toList.idxOf? c
  found.toList[i]?

/-- What an accented character stands for. -/
def splitAccented? (c : Char) : Option (List Char) :=
  accents.findSome? fun a =>
    (counterpart? c a.composites a.firsts).map fun first => [first, Char.ofNat a.second]

/-- What stands for an ideograph that gives way. -/
def splitIdeograph? (c : Char) : Option (List Char) := do
  let run ← ideographs.findRev? fun r => r.1 ≤ c.toNat
  let other ← run.2.toList[c.toNat - run.1]?
  pure [other]

/-- What a character stands for, if that is something else. -/
def split? (c : Char) : Option (List Char) :=
  if c.toNat < 0xc0 then none
  else if firstSyllable ≤ c.toNat ∧ c.toNat < firstSyllable + 11172 then
    some ((splitSyllable c.toNat).map Char.ofNat)
  else
    (splitAccented? c).or <| (splitIdeograph? c).or <|
      (decompositions.find? fun d => d.1 = c.toNat).map fun d => d.2.map Char.ofNat

/-- The character that stands for two. -/
def join? (a b : Char) : Option Char :=
  if b.toNat < 0x300 then none
  else
    ((joinSyllable? a.toNat b.toNat).map Char.ofNat).or <|
      accents.findSome? fun accent =>
        if accent.second = b.toNat then counterpart? a accent.firsts accent.composites else none

end ModuleBundler.Composite
