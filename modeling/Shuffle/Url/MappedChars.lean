import Shuffle.Url.LabelChars

/-!
# Mapped characters of host names

The characters outside ASCII that may be written in a host name, but stand for others there:
capitals for small letters, and characters that differ from others only in how they are drawn
(the mapped and the ignored characters of Unicode's rules for internationalised names).

- `Label.meaning?` is what a character stands for.
-/

namespace Shuffle.Label

/-! ## §1 Tables -/

/-- Ranges of characters that stand for nothing. -/
def ignoredChars : List (Nat × Nat) :=
  [(0x00AD, 0x00AD), (0x034F, 0x034F), (0x115F, 0x1160), (0x17B4, 0x17B5), (0x180B, 0x180F),
   (0x200B, 0x200B), (0x2060, 0x2064), (0x206A, 0x206F), (0x3164, 0x3164), (0xFE00, 0xFE0F),
   (0xFEFF, 0xFEFF), (0xFFA0, 0xFFA0), (0x1BCA0, 0x1BCA3), (0x1D173, 0x1D17A), (0xE0100, 0xE01EF)]

/-- Ranges of characters that stand for a range of others, which starts at the third number. -/
def shiftedChars : List (Nat × Nat × Nat) :=
  [(0x00C0, 0x00D6, 0x00E0), (0x00D8, 0x00DE, 0x00F8), (0x0391, 0x03A1, 0x03B1),
   (0x03A3, 0x03AB, 0x03C3), (0x0400, 0x040F, 0x0450), (0x0410, 0x042F, 0x0430),
   (0x0531, 0x0556, 0x0561), (0x10A0, 0x10C5, 0x2D00), (0x13F8, 0x13FD, 0x13F0),
   (0x1C90, 0x1CBA, 0x10D0), (0x1D33, 0x1D3A, 0x0067), (0x1F08, 0x1F0F, 0x1F00),
   (0x1F18, 0x1F1D, 0x1F10), (0x1F28, 0x1F2F, 0x1F20), (0x1F38, 0x1F3F, 0x1F30),
   (0x1F48, 0x1F4D, 0x1F40), (0x1F68, 0x1F6F, 0x1F60), (0x2074, 0x2079, 0x0034),
   (0x2080, 0x2089, 0x0030), (0x2460, 0x2468, 0x0031), (0x24B6, 0x24CF, 0x0061),
   (0x24D0, 0x24E9, 0x0061), (0x2C00, 0x2C2F, 0x2C30), (0x313A, 0x313F, 0x11B0),
   (0x3145, 0x314E, 0x1109), (0x314F, 0x3163, 0x1161), (0x32E4, 0x32E9, 0x30CA),
   (0x32F5, 0x32FA, 0x30E8), (0xAB70, 0xABBF, 0x13A0), (0xFF01, 0xFF20, 0x0021),
   (0xFF21, 0xFF3A, 0x0061), (0xFF3B, 0xFF5E, 0x005B), (0xFF85, 0xFF8A, 0x30CA),
   (0xFF96, 0xFF9B, 0x30E8), (0xFFAA, 0xFFAF, 0x11B0), (0xFFB5, 0xFFBE, 0x1109),
   (0xFFC2, 0xFFC7, 0x1161), (0xFFCA, 0xFFCF, 0x1167), (0xFFD2, 0xFFD7, 0x116D),
   (0x10400, 0x10427, 0x10428), (0x104B0, 0x104D3, 0x104D8), (0x10570, 0x1057A, 0x10597),
   (0x1057C, 0x1058A, 0x105A3), (0x1058C, 0x10592, 0x105B3), (0x10C80, 0x10CB2, 0x10CC0),
   (0x10D50, 0x10D65, 0x10D70), (0x118A0, 0x118BF, 0x118C0), (0x16E40, 0x16E5F, 0x16E60),
   (0x16EA0, 0x16EB8, 0x16EBB), (0x1CCD6, 0x1CCEF, 0x0061), (0x1CCF0, 0x1CCF9, 0x0030),
   (0x1D400, 0x1D419, 0x0061), (0x1D41A, 0x1D433, 0x0061), (0x1D434, 0x1D44D, 0x0061),
   (0x1D44E, 0x1D454, 0x0061), (0x1D456, 0x1D467, 0x0069), (0x1D468, 0x1D481, 0x0061),
   (0x1D482, 0x1D49B, 0x0061), (0x1D4AE, 0x1D4B5, 0x0073), (0x1D4BD, 0x1D4C3, 0x0068),
   (0x1D4C5, 0x1D4CF, 0x0070), (0x1D4D0, 0x1D4E9, 0x0061), (0x1D4EA, 0x1D503, 0x0061),
   (0x1D50D, 0x1D514, 0x006A), (0x1D516, 0x1D51C, 0x0073), (0x1D51E, 0x1D537, 0x0061),
   (0x1D54A, 0x1D550, 0x0073), (0x1D552, 0x1D56B, 0x0061), (0x1D56C, 0x1D585, 0x0061),
   (0x1D586, 0x1D59F, 0x0061), (0x1D5A0, 0x1D5B9, 0x0061), (0x1D5BA, 0x1D5D3, 0x0061),
   (0x1D5D4, 0x1D5ED, 0x0061), (0x1D5EE, 0x1D607, 0x0061), (0x1D608, 0x1D621, 0x0061),
   (0x1D622, 0x1D63B, 0x0061), (0x1D63C, 0x1D655, 0x0061), (0x1D656, 0x1D66F, 0x0061),
   (0x1D670, 0x1D689, 0x0061), (0x1D68A, 0x1D6A3, 0x0061), (0x1D6A8, 0x1D6B8, 0x03B1),
   (0x1D6BA, 0x1D6C0, 0x03C3), (0x1D6C2, 0x1D6D2, 0x03B1), (0x1D6D4, 0x1D6DA, 0x03C3),
   (0x1D6E2, 0x1D6F2, 0x03B1), (0x1D6F4, 0x1D6FA, 0x03C3), (0x1D6FC, 0x1D70C, 0x03B1),
   (0x1D70E, 0x1D714, 0x03C3), (0x1D71C, 0x1D72C, 0x03B1), (0x1D72E, 0x1D734, 0x03C3),
   (0x1D736, 0x1D746, 0x03B1), (0x1D748, 0x1D74E, 0x03C3), (0x1D756, 0x1D766, 0x03B1),
   (0x1D768, 0x1D76E, 0x03C3), (0x1D770, 0x1D780, 0x03B1), (0x1D782, 0x1D788, 0x03C3),
   (0x1D790, 0x1D7A0, 0x03B1), (0x1D7A2, 0x1D7A8, 0x03C3), (0x1D7AA, 0x1D7BA, 0x03B1),
   (0x1D7BC, 0x1D7C2, 0x03C3), (0x1D7CE, 0x1D7D7, 0x0030), (0x1D7D8, 0x1D7E1, 0x0030),
   (0x1D7E2, 0x1D7EB, 0x0030), (0x1D7EC, 0x1D7F5, 0x0030), (0x1D7F6, 0x1D7FF, 0x0030),
   (0x1E030, 0x1E038, 0x0430), (0x1E03C, 0x1E046, 0x043E), (0x1E051, 0x1E059, 0x0430),
   (0x1E05F, 0x1E064, 0x0443), (0x1E900, 0x1E921, 0x1E922), (0x1F130, 0x1F149, 0x0061),
   (0x1FBF0, 0x1FBF9, 0x0030)]

/-- Ranges in which every other character, the first one included, stands for the next one. -/
def pairedCapitals : List (Nat × Nat) :=
  [(0x0100, 0x012E), (0x0141, 0x0147), (0x014A, 0x0176), (0x01CD, 0x01DB), (0x01DE, 0x01EE),
   (0x01F8, 0x021E), (0x0222, 0x0232), (0x0246, 0x024E), (0x03D8, 0x03EE), (0x0460, 0x0480),
   (0x048A, 0x04BE), (0x04C1, 0x04CD), (0x04D0, 0x052E), (0x1E00, 0x1E94), (0x1EA0, 0x1EFE),
   (0x2C80, 0x2CE2), (0xA640, 0xA66C), (0xA680, 0xA69A), (0xA722, 0xA72E), (0xA732, 0xA76E),
   (0xA77E, 0xA786), (0xA796, 0xA7A8), (0xA7B4, 0xA7C2), (0xA7CC, 0xA7DA)]

/-- Runs of characters, by the first one, each of which stands for the character at its place in a
text. -/
def singleChars : List (Nat × String) :=
  [(0x00A0, " "), (0x00AA, "a"), (0x0136, "ķ"), (0x0139, "ĺ"), (0x013B, "ļ"), (0x013D, "ľ"),
   (0x0178, "ÿź"), (0x017B, "ż"), (0x017D, "ž"), (0x017F, "s"), (0x0181, "ɓƃ"), (0x0184, "ƅ"),
   (0x0186, "ɔƈ"), (0x0189, "ɖɗƌ"), (0x018E, "ǝəɛƒ"), (0x0193, "ɠɣ"), (0x0196, "ɩɨƙ"),
   (0x019C, "ɯɲ"), (0x019F, "ɵơ"), (0x01A2, "ƣ"), (0x01A4, "ƥ"), (0x01A6, "ʀƨ"), (0x01A9, "ʃ"),
   (0x01AC, "ƭ"), (0x01AE, "ʈư"), (0x01B1, "ʊʋƴ"), (0x01B5, "ƶ"), (0x01B7, "ʒƹ"), (0x01BC, "ƽ"),
   (0x01F6, "ƕƿ"), (0x0220, "ƞ"), (0x023A, "ⱥȼ"), (0x023D, "ƚⱦ"), (0x0241, "ɂ"), (0x0243, "ƀʉʌ"),
   (0x02B0, "hɦjrɹɻʁwy"), (0x02E0, "ɣlsxʕ"), (0x0340, "\u0300\u0301"), (0x0370, "ͱ"), (0x0372, "ͳ"),
   (0x0374, "\u02B9"), (0x0376, "ͷ"), (0x037E, ";ϳ"), (0x038C, "ό"), (0x038E, "ύώ"),
   (0x03CF, "ϗβθυύϋφπ"), (0x03F0, "κρσ"), (0x03F4, "θε"), (0x03F7, "ϸ"), (0x03F9, "σϻ"),
   (0x03FD, "ͻͼͽ"), (0x04C0, "ӏ"), (0x0F0C, "་"), (0x10C7, "ⴧ"), (0x10CD, "ⴭ"), (0x10FC, "ნ"),
   (0x1C80, "вдосттъѣꙋ\u1C8A"), (0x1CBD, "ჽჾჿ"), (0x1D2C, "aæb"), (0x1D30, "deǝ"),
   (0x1D3C, "oȣprtuwaɐɑᴂbdeəɛɜg"), (0x1D4F, "kmŋoɔᴖᴗptuᴝɯvᴥβγδφχiruvβγρφχ"), (0x1D78, "н"),
   (0x1D9B, "ɒcɕðɜfɟɡɥɨɩɪᵻʝɭᶅʟɱɰɲɳɴɵɸʂʃƫʉʊᴜʋʌzʐʑʒθ"), (0x1E9E, "ß"), (0x1F59, "ὑ"), (0x1F5B, "ὓ"),
   (0x1F5D, "ὕ"), (0x1F5F, "ὗ"), (0x1F71, "ά"), (0x1F73, "έ"), (0x1F75, "ή"), (0x1F77, "ί"),
   (0x1F79, "ό"), (0x1F7B, "ύ"), (0x1F7D, "ώ"), (0x1FD3, "ΐ"), (0x1FD8, "ῐῑὶί"), (0x1FE3, "ΰ"),
   (0x2000, "           "), (0x2011, "‐"), (0x202F, " "), (0x205F, " "), (0x2070, "0i"),
   (0x207A, "+−=()n"), (0x208A, "+−=()"), (0x2090, "aeoxəhklmnpst"), (0x210A, "ghhhhħiill"),
   (0x2119, "pqrrr"), (0x2124, "z"), (0x2126, "ω"), (0x2128, "z"), (0x212A, "kåbc"),
   (0x212F, "eefⅎmo\u05D0\u05D1\u05D2\u05D3i"), (0x2145, "ddeij"), (0x2183, "ↄ"), (0x2329, "〈〉"),
   (0x24EA, "0"), (0x2C60, "ⱡ"), (0x2C62, "ɫᵽɽ"), (0x2C67, "ⱨ"), (0x2C69, "ⱪ"), (0x2C6B, "ⱬ"),
   (0x2C6D, "ɑɱɐɒ"), (0x2C72, "ⱳ"), (0x2C75, "ⱶ"), (0x2C7C, "jvȿɀ"), (0x2CEB, "ⳬ"), (0x2CED, "ⳮ"),
   (0x2CF2, "ⳳ"), (0x2D6F, "ⵡ"), (0x2E9F, "母"), (0x2EF3, "龟"),
   (0x2F00, "一丨丶丿乙亅二亠人儿入八冂冖冫几凵刀力勹匕匚匸十卜卩厂厶又口囗土士夂夊夕大女子宀寸"),
   (0x2F29, "小尢尸屮山巛工己巾干幺广廴廾弋弓彐彡彳心戈戶手支攴文斗斤方无日曰月木欠止歹殳毋比毛"),
   (0x2F52, "氏气水火爪父爻爿片牙牛犬玄玉瓜瓦甘生用田疋疒癶白皮皿目矛矢石示禸禾穴立竹米糸缶网羊"),
   (0x2F7B, "羽老而耒耳聿肉臣自至臼舌舛舟艮色艸虍虫血行衣襾見角言谷豆豕豸貝赤走足身車辛辰辵邑酉"),
   (0x2FA4, "釆里金長門阜隶隹雨靑非面革韋韭音頁風飛食首香馬骨高髟鬥鬯鬲鬼魚鳥鹵鹿麥麻黃黍黑黹黽"),
   (0x2FCD, "鼎鼓鼠鼻齊齒龍龜龠"), (0x3000, " "), (0x3002, "."), (0x3036, "〒"), (0x3038, "十卄卅"),
   (0x3131, "ᄀᄁᆪᄂᆬᆭᄃᄄᄅ"), (0x3140, "ᄚᄆᄇᄈᄡ"),
   (0x3165, "ᄔᄕᇇᇈᇌᇎᇓᇗᇙᄜᇝᇟᄝᄞᄠᄢᄣᄧᄩᄫᄬᄭᄮᄯᄲᄶᅀᅇᅌᇱᇲᅗᅘᅙᆄᆅᆈᆑᆒᆔᆞᆡ"),
   (0x3192, "一二三四上中下甲乙丙丁天地人"),
   (0x3260, "ᄀᄂᄃᄅᄆᄇᄉᄋᄌᄎᄏᄐᄑᄒ가나다라마바사아자차카타파하"),
   (0x3280, "一二三四五六七八九十月火水木金土日株有社名特財祝労秘男女適優印注項休写正上中下左右"),
   (0x32A9, "医宗学監企資協夜"), (0x32D0, "アイウエオカキクケコサシスセソタチツテト"),
   (0x32EA, "ヒフヘホマミムメモヤユ"), (0xA69C, "ъь"), (0xA770, "ꝯ"), (0xA779, "ꝺ"), (0xA77B, "ꝼ"),
   (0xA77D, "ᵹ"), (0xA78B, "ꞌ"), (0xA78D, "ɥ"), (0xA790, "ꞑ"), (0xA792, "ꞓ"), (0xA7AA, "ɦɜɡɬɪ"),
   (0xA7B0, "ʞʇʝꭓ"), (0xA7C4, "ꞔʂᶎꟈ"), (0xA7C9, "ꟊ"), (0xA7CB, "ɤ"), (0xA7DC, "ƛ"),
   (0xA7F1, "scfqꟶ"), (0xA7F8, "ħœ"), (0xAB5C, "ꜧꬷɫꭒ"), (0xAB69, "ʍ"),
   (0xF900, "豈更車賈滑串句龜龜契金喇奈懶癩羅蘿螺裸邏樂洛烙珞落酪駱亂卵欄爛蘭鸞嵐濫藍襤拉臘蠟廊"),
   (0xF929, "朗浪狼郎來冷勞擄櫓爐盧老蘆虜路露魯鷺碌祿綠菉錄鹿論壟弄籠聾牢磊賂雷壘屢樓淚漏累縷陋"),
   (0xF952, "勒肋凜凌稜綾菱陵讀拏樂諾丹寧怒率異北磻便復不泌數索參塞省葉說殺辰沈拾若掠略亮兩凉梁"),
   (0xF97B, "糧良諒量勵呂女廬旅濾礪閭驪麗黎力曆歷轢年憐戀撚漣煉璉秊練聯輦蓮連鍊列劣咽烈裂說廉念"),
   (0xF9A4, "捻殮簾獵令囹寧嶺怜玲瑩羚聆鈴零靈領例禮醴隸惡了僚寮尿料樂燎療蓼遼龍暈阮劉杻柳流溜琉"),
   (0xF9CD, "留硫紐類六戮陸倫崙淪輪律慄栗率隆利吏履易李梨泥理痢罹裏裡里離匿溺吝燐璘藺隣鱗麟林淋"),
   (0xF9F6, "臨立笠粒狀炙識什茶刺切度拓糖宅洞暴輻行降見廓兀嗀"), (0xFA10, "塚"), (0xFA12, "晴"),
   (0xFA15, "凞猪益礼神祥福靖精羽"), (0xFA20, "蘒"), (0xFA22, "諸"), (0xFA25, "逸都"),
   (0xFA2A, "飯飼館鶴郞隷侮僧免勉勤卑喝嘆器塀墨層屮悔慨憎懲敏既暑梅海渚漢煮爫琢碑社祉祈祐祖祝禍"),
   (0xFA53, "禎穀突節練縉繁署者臭艹艹著褐視謁謹賓贈辶逸難響頻恵𤋮舘"),
   (0xFA70, "並况全侀充冀勇勺喝啕喙嗢塚墳奄奔婢嬨廒廙彩徭惘慎愈憎慠懲戴揄搜摒敖晴朗望杖歹殺流滛"),
   (0xFA99, "滋漢瀞煮瞧爵犯猪瑱甆画瘝瘟益盛直睊着磌窱節类絛練缾者荒華蝹襁覆視調諸請謁諾諭謹變贈"),
   (0xFAC2, "輸遲醙鉶陼難靖韛響頋頻鬒龜𢡊𢡄𣏕㮝䀘䀹𥉉𥳐𧻓齃龎"),
   (0xFB20, "\u05E2\u05D0\u05D3\u05D4\u05DB\u05DC\u05DD\u05E8\u05EA+"),
   (0xFB50, "\u0671\u0671\u067B\u067B\u067B\u067B\u067E\u067E\u067E\u067E\u0680\u0680\u0680"),
   (0xFB5D, "\u0680\u067A\u067A\u067A\u067A\u067F\u067F\u067F\u067F\u0679\u0679\u0679\u0679"),
   (0xFB6A, "\u06A4\u06A4\u06A4\u06A4\u06A6\u06A6\u06A6\u06A6\u0684\u0684\u0684\u0684\u0683"),
   (0xFB77, "\u0683\u0683\u0683\u0686\u0686\u0686\u0686\u0687\u0687\u0687\u0687\u068D\u068D"),
   (0xFB84, "\u068C\u068C\u068E\u068E\u0688\u0688\u0698\u0698\u0691\u0691\u06A9\u06A9\u06A9"),
   (0xFB91, "\u06A9\u06AF\u06AF\u06AF\u06AF\u06B3\u06B3\u06B3\u06B3\u06B1\u06B1\u06B1\u06B1"),
   (0xFB9E, "\u06BA\u06BA\u06BB\u06BB\u06BB\u06BB\u06C0\u06C0\u06C1\u06C1\u06C1\u06C1\u06BE"),
   (0xFBAB, "\u06BE\u06BE\u06BE\u06D2\u06D2\u06D3\u06D3"),
   (0xFBD3, "\u06AD\u06AD\u06AD\u06AD\u06C7\u06C7\u06C6\u06C6\u06C8\u06C8"),
   (0xFBDE, "\u06CB\u06CB\u06C5\u06C5\u06C9\u06C9\u06D0\u06D0\u06D0\u06D0\u0649\u0649"),
   (0xFE10, ",、"), (0xFE13, ":;!?〖〗"), (0xFE31, "—–__()\x7b\x7d〔〕【】《》〈〉「」『』"),
   (0xFE54, ";:?!—()\x7b\x7d〔〕#&*+-<>="), (0xFE68, "\x5c$%@"),
   (0xFE80, "\u0621\u0622\u0622\u0623\u0623\u0624\u0624\u0625\u0625\u0626\u0626\u0626\u0626"),
   (0xFE8D, "\u0627\u0627\u0628\u0628\u0628\u0628\u0629\u0629\u062A\u062A\u062A\u062A\u062B"),
   (0xFE9A, "\u062B\u062B\u062B\u062C\u062C\u062C\u062C\u062D\u062D\u062D\u062D\u062E\u062E"),
   (0xFEA7, "\u062E\u062E\u062F\u062F\u0630\u0630\u0631\u0631\u0632\u0632\u0633\u0633\u0633"),
   (0xFEB4, "\u0633\u0634\u0634\u0634\u0634\u0635\u0635\u0635\u0635\u0636\u0636\u0636\u0636"),
   (0xFEC1, "\u0637\u0637\u0637\u0637\u0638\u0638\u0638\u0638\u0639\u0639\u0639\u0639\u063A"),
   (0xFECE, "\u063A\u063A\u063A\u0641\u0641\u0641\u0641\u0642\u0642\u0642\u0642\u0643\u0643"),
   (0xFEDB, "\u0643\u0643\u0644\u0644\u0644\u0644\u0645\u0645\u0645\u0645\u0646\u0646\u0646"),
   (0xFEE8, "\u0646\u0647\u0647\u0647\u0647\u0648\u0648\u0649\u0649\u064A\u064A\u064A\u064A"),
   (0xFF5F, "⦅⦆.「」、・ヲァィゥェォャュョッ\u30FCアイウエオカキクケコサシスセソタチツテト"),
   (0xFF8B, "ヒフヘホマミムメモヤユ"), (0xFF9C, "ワン\u3099\u309A"), (0xFFA1, "ᄀᄁᆪᄂᆬᆭᄃᄄᄅ"),
   (0xFFB0, "ᄚᄆᄇᄈᄡ"), (0xFFDA, "ᅳᅴᅵ"), (0xFFE8, "│←↑→↓■○"), (0x10594, "𐖻𐖼"),
   (0x10781, "\u02D0\u02D1æʙɓ"), (0x10787, "ʣꭦʥʤɖɗᶑɘɞʩɤɢɠʛħʜɧʄʪʫɬ𝼄ꞎɮ𝼅ʎ𝼆øɶɷqɺ𝼈ɽɾʀʨʦꭧʧʈⱱ"),
   (0x107B2, "ʏʡʢʘǀǁǂ𝼊𝼞"), (0x1D49C, "a"), (0x1D49E, "cd"), (0x1D4A2, "g"), (0x1D4A5, "jk"),
   (0x1D4A9, "nopq"), (0x1D4B6, "abcd"), (0x1D4BB, "f"), (0x1D504, "ab"), (0x1D507, "defg"),
   (0x1D538, "ab"), (0x1D53B, "defg"), (0x1D540, "ijklm"), (0x1D546, "o"), (0x1D6A4, "ıȷ"),
   (0x1D6B9, "θ"), (0x1D6C1, "∇"), (0x1D6D3, "σ"), (0x1D6DB, "∂εθκφρπ"), (0x1D6F3, "θ"),
   (0x1D6FB, "∇"), (0x1D70D, "σ"), (0x1D715, "∂εθκφρπ"), (0x1D72D, "θ"), (0x1D735, "∇"),
   (0x1D747, "σ"), (0x1D74F, "∂εθκφρπ"), (0x1D767, "θ"), (0x1D76F, "∇"), (0x1D781, "σ"),
   (0x1D789, "∂εθκφρπ"), (0x1D7A1, "θ"), (0x1D7A9, "∇"), (0x1D7BB, "σ"), (0x1D7C3, "∂εθκφρπϝϝ"),
   (0x1E039, "клм"), (0x1E047, "ыэюꚉәіјөүӏ"), (0x1E05A, "клопс"), (0x1E065, "ъыґіѕџҫꙑұ"),
   (0x1EE00, "\u0627\u0628\u062C\u062F"),
   (0x1EE05, "\u0648\u0632\u062D\u0637\u064A\u0643\u0644\u0645\u0646\u0633\u0639\u0641\u0635"),
   (0x1EE12, "\u0642\u0631\u0634\u062A\u062B\u062E\u0630\u0636\u0638\u063A\u066E\u06BA\u06A1"),
   (0x1EE1F, "\u066F"), (0x1EE21, "\u0628\u062C"), (0x1EE24, "\u0647"), (0x1EE27, "\u062D"),
   (0x1EE29, "\u064A\u0643\u0644\u0645\u0646\u0633\u0639\u0641\u0635\u0642"),
   (0x1EE34, "\u0634\u062A\u062B\u062E"), (0x1EE39, "\u0636"), (0x1EE3B, "\u063A"),
   (0x1EE42, "\u062C"), (0x1EE47, "\u062D"), (0x1EE49, "\u064A"), (0x1EE4B, "\u0644"),
   (0x1EE4D, "\u0646\u0633\u0639"), (0x1EE51, "\u0635\u0642"), (0x1EE54, "\u0634"),
   (0x1EE57, "\u062E"), (0x1EE59, "\u0636"), (0x1EE5B, "\u063A"), (0x1EE5D, "\u06BA"),
   (0x1EE5F, "\u066F"), (0x1EE61, "\u0628\u062C"), (0x1EE64, "\u0647"),
   (0x1EE67, "\u062D\u0637\u064A\u0643"), (0x1EE6C, "\u0645\u0646\u0633\u0639\u0641\u0635\u0642"),
   (0x1EE74, "\u0634\u062A\u062B\u062E"), (0x1EE79, "\u0636\u0638\u063A\u066E"),
   (0x1EE7E, "\u06A1"), (0x1EE80, "\u0627\u0628\u062C\u062F\u0647\u0648\u0632\u062D\u0637\u064A"),
   (0x1EE8B, "\u0644\u0645\u0646\u0633\u0639\u0641\u0635\u0642\u0631\u0634\u062A\u062B\u062E"),
   (0x1EE98, "\u0630\u0636\u0638\u063A"), (0x1EEA1, "\u0628\u062C\u062F"),
   (0x1EEA5, "\u0648\u0632\u062D\u0637\u064A"),
   (0x1EEAB, "\u0644\u0645\u0646\u0633\u0639\u0641\u0635\u0642\u0631\u0634\u062A\u062B\u062E"),
   (0x1EEB8, "\u0630\u0636\u0638\u063A"),
   (0x1F210, "手字双デ二多解天交映無料前後再新初終生販声吹演投捕一三遊左中右指走打禁空合満有月申"),
   (0x1F239, "割営配"), (0x1F250, "得可"),
   (0x2F800, "丽丸乁𠄢你侮侻倂偺備僧像㒞𠘺免兔兤具𠔜㒹內再𠕋冗冤仌冬况𩇟凵刃㓟刻剆割剷㔕勇勉勤勺"),
   (0x2F829, "包匆北卉卑博即卽卿卿卿𠨬灰及叟𠭣叫叱吆咞吸呈周咢哶唐啓啣善善喙喫喳嗂圖嘆圗噑噴切壮"),
   (0x2F852, "城埴堍型堲報墬𡓤売壷夆多夢奢𡚨𡛪姬娛娧姘婦㛮㛼嬈嬾嬾𡧈寃寘寧寳𡬘寿将当尢㞁屠屮峀岍"),
   (0x2F87B, "𡷤嵃𡷦嵮嵫嵼巡巢㠯巽帨帽幩㡢𢆃㡼庰庳庶廊𪎒廾𢌱𢌱舁弢弢㣇𣊸𦇚形彫㣣徚忍志忹悁㤺㤜悔"),
   (0x2F8A4, "𢛔惇慈慌慎慌慺憎憲憤憯懞懲懶成戛扝抱拔捐𢬌挽拼捨掃揤𢯱搢揅掩㨮摩摾撝摷㩬敏敬𣀊旣書"),
   (0x2F8CD, "晉㬙暑㬈㫤冒冕最暜肭䏙朗望朡杞杓𣏃㭉柺枅桒梅𣑭梎栟椔㮝楂榣槪檨𣚣櫛㰘次𣢧歔㱎歲殟殺"),
   (0x2F8F6, "殻𣪍𡴋𣫺汎𣲼沿泍汧洖派海流浩浸涅𣴞洴港湮㴳滋滇𣻑淹潮𣽞𣾎濆瀹瀞瀛㶖灊災灷炭𠔥煅𤉣熜"),
   (0x2F91F, "𤎫爨爵牐𤘈犀犕𤜵𤠔獺王㺬玥㺸㺸瑇瑜瑱璅瓊㼛甤𤰶甾𤲒異𢆟瘐𤾡𤾸𥁄㿼䀈直𥃳𥃲𥄙𥄳眞真真"),
   (0x2F948, "睊䀹瞋䁆䂖𥐝硎碌磌䃣𥘦祖𥚚𥛅福秫䄯穀穊穏𥥼𥪧𥪧竮䈂𥮫篆築䈧𥲀糒䊠糨糣紀𥾆絣䌁緇縂繅"),
   (0x2F971, "䌴𦈨𦉇䍙𦋙罺𦌾羕翺者𦓚𦔣聠𦖨聰𣍟䏕育脃䐋脾媵𦞧𦞵𣎓𣎜舁舄辞䑫芑芋芝劳花芳芽苦𦬼若茝"),
   (0x2F99A, "荣莭茣莽菧著荓菊菌菜𦰶𦵫𦳕䔫蓱蓳蔖𧏊蕤𦼬䕝䕡𦾱𧃒䕫虐虜虧虩蚩蚈蜎蛢蝹蜨蝫螆䗗蟡蠁䗹"),
   (0x2F9C3, "衠衣𧙧裗裞䘵裺㒻𧢮𧥦䚾䛇誠諭變豕𧲨貫賁贛起𧼯𠠄跋趼跰𠣞軔輸𨗒𨗭邔郱鄑𨜮鄛鈸鋗鋘鉼鏹"),
   (0x2F9EC, "鐕𨯺開䦕閷𨵷䧦雃嶲霣𩅅𩈚䩮䩶韠𩐊䪲𩒖頋頋頩𩖶飢䬳餩馧駂駾䯎𩬰鬒鱀鳽䳎䳭鵧𪃎䳸𪄅𪈎𪊑"),
   (0x2FA15, "麻䵖黹黾鼅鼏鼖鼻𪘀")]

/-- Runs of characters, by the first one, each of which stands for a text. -/
def spelledChars : List (Nat × List String) :=
  [(0x00A8, [" \u0308"]), (0x00AF, [" \u0304"]), (0x00B2, ["2", "3", " \u0301", "μ"]),
   (0x00B8, [" \u0327", "1", "o"]), (0x00BC, ["1⁄4", "1⁄2", "3⁄4"]), (0x0130, ["i\u0307"]),
   (0x0132, ["ij", "ij", "ĵ"]), (0x013F, ["l·", "l·"]), (0x0149, ["\u02BCn"]),
   (0x01C4, ["dž", "dž", "dž", "lj", "lj", "lj", "nj", "nj", "nj"]),
   (0x01F1, ["dz", "dz", "dz", "ǵ"]),
   (0x02D8, [" \u0306", " \u0307", " \u030A", " \u0328", " \u0303", " \u030B"]),
   (0x0343, ["\u0313", "\u0308\u0301", "ι"]), (0x037A, [" ι"]),
   (0x0384, [" \u0301", " \u0308\u0301", "ά", "·", "έ", "ή", "ί"]), (0x0587, ["եւ"]),
   (0x0675, ["\u0627\u0674", "\u0648\u0674", "\u06C7\u0674", "\u064A\u0674"]),
   (0x0958, ["क\u093C", "ख\u093C", "ग\u093C", "ज\u093C", "ड\u093C", "ढ\u093C", "फ\u093C"]),
   (0x095F, ["य\u093C"]), (0x09DC, ["ড\u09BC", "ঢ\u09BC"]), (0x09DF, ["য\u09BC"]),
   (0x0A33, ["ਲ\u0A3C"]), (0x0A36, ["ਸ\u0A3C"]), (0x0A59, ["ਖ\u0A3C", "ਗ\u0A3C", "ਜ\u0A3C"]),
   (0x0A5E, ["ਫ\u0A3C"]), (0x0B5C, ["ଡ\u0B3C", "ଢ\u0B3C"]), (0x0E33, ["\u0E4Dา"]),
   (0x0EB3, ["\u0ECDາ"]), (0x0EDC, ["ຫນ", "ຫມ"]), (0x0F43, ["ག\u0FB7"]), (0x0F4D, ["ཌ\u0FB7"]),
   (0x0F52, ["ད\u0FB7"]), (0x0F57, ["བ\u0FB7"]), (0x0F5C, ["ཛ\u0FB7"]), (0x0F69, ["ཀ\u0FB5"]),
   (0x0F73, ["\u0F71\u0F72"]),
   (0x0F75, ["\u0F71\u0F74", "\u0FB2\u0F80", "\u0FB2\u0F71\u0F80", "\u0FB3\u0F80"]),
   (0x0F79, ["\u0FB3\u0F71\u0F80"]), (0x0F81, ["\u0F71\u0F80"]), (0x0F93, ["\u0F92\u0FB7"]),
   (0x0F9D, ["\u0F9C\u0FB7"]), (0x0FA2, ["\u0FA1\u0FB7"]), (0x0FA7, ["\u0FA6\u0FB7"]),
   (0x0FAC, ["\u0FAB\u0FB7"]), (0x0FB9, ["\u0F90\u0FB5"]), (0x1E9A, ["a\u02BE", "ṡ"]),
   (0x1F80, ["ἀι", "ἁι", "ἂι", "ἃι", "ἄι", "ἅι", "ἆι", "ἇι", "ἀι", "ἁι", "ἂι", "ἃι", "ἄι"]),
   (0x1F8D, ["ἅι", "ἆι", "ἇι", "ἠι", "ἡι", "ἢι", "ἣι", "ἤι", "ἥι", "ἦι", "ἧι", "ἠι", "ἡι"]),
   (0x1F9A, ["ἢι", "ἣι", "ἤι", "ἥι", "ἦι", "ἧι", "ὠι", "ὡι", "ὢι", "ὣι", "ὤι", "ὥι", "ὦι"]),
   (0x1FA7, ["ὧι", "ὠι", "ὡι", "ὢι", "ὣι", "ὤι", "ὥι", "ὦι", "ὧι"]), (0x1FB2, ["ὰι", "αι", "άι"]),
   (0x1FB7, ["ᾶι", "ᾰ", "ᾱ", "ὰ", "ά", "αι", " \u0313", "ι", " \u0313", " \u0342"]),
   (0x1FC1, [" \u0308\u0342", "ὴι", "ηι", "ήι"]),
   (0x1FC7, ["ῆι", "ὲ", "έ", "ὴ", "ή", "ηι", " \u0313\u0300", " \u0313\u0301"]),
   (0x1FCF, [" \u0313\u0342"]), (0x1FDD, [" \u0314\u0300", " \u0314\u0301", " \u0314\u0342"]),
   (0x1FE8, ["ῠ", "ῡ", "ὺ", "ύ", "ῥ", " \u0308\u0300", " \u0308\u0301", "\x60"]),
   (0x1FF2, ["ὼι", "ωι", "ώι"]), (0x1FF7, ["ῶι", "ὸ", "ό", "ὼ", "ώ", "ωι", " \u0301", " \u0314"]),
   (0x2017, [" \u0333"]), (0x2033, ["′′", "′′′"]), (0x2036, ["‵‵", "‵‵‵"]), (0x203C, ["!!"]),
   (0x203E, [" \u0305"]), (0x2047, ["??", "?!", "!?"]), (0x2057, ["′′′′"]), (0x20A8, ["rs"]),
   (0x2100, ["a/c", "a/s", "c", "°c"]), (0x2105, ["c/o", "c/u", "ɛ"]), (0x2109, ["°f"]),
   (0x2115, ["n", "no"]), (0x2120, ["sm", "tel", "tm"]), (0x213B, ["fax", "π", "γ", "γ", "π", "∑"]),
   (0x2150, ["1⁄7", "1⁄9", "1⁄10", "1⁄3", "2⁄3", "1⁄5", "2⁄5", "3⁄5", "4⁄5", "1⁄6", "5⁄6"]),
   (0x215B, ["1⁄8", "3⁄8", "5⁄8", "7⁄8", "1⁄", "i", "ii", "iii", "iv", "v", "vi", "vii"]),
   (0x2167, ["viii", "ix", "x", "xi", "xii", "l", "c", "d", "m", "i", "ii", "iii", "iv", "v"]),
   (0x2175, ["vi", "vii", "viii", "ix", "x", "xi", "xii", "l", "c", "d", "m"]), (0x2189, ["0⁄3"]),
   (0x222C, ["∫∫", "∫∫∫"]), (0x222F, ["∮∮", "∮∮∮"]),
   (0x2469, ["10", "11", "12", "13", "14", "15", "16", "17", "18", "19", "20", "(1)", "(2)"]),
   (0x2476, ["(3)", "(4)", "(5)", "(6)", "(7)", "(8)", "(9)", "(10)", "(11)", "(12)", "(13)"]),
   (0x2481, ["(14)", "(15)", "(16)", "(17)", "(18)", "(19)", "(20)"]),
   (0x249C, ["(a)", "(b)", "(c)", "(d)", "(e)", "(f)", "(g)", "(h)", "(i)", "(j)", "(k)"]),
   (0x24A7, ["(l)", "(m)", "(n)", "(o)", "(p)", "(q)", "(r)", "(s)", "(t)", "(u)", "(v)"]),
   (0x24B2, ["(w)", "(x)", "(y)", "(z)"]), (0x2A0C, ["∫∫∫∫"]), (0x2A74, ["::=", "==", "==="]),
   (0x2ADC, ["⫝\u0338"]), (0x309B, [" \u3099", " \u309A"]), (0x309F, ["より"]), (0x30FF, ["コト"]),
   (0x3200, ["(ᄀ)", "(ᄂ)", "(ᄃ)", "(ᄅ)", "(ᄆ)", "(ᄇ)", "(ᄉ)", "(ᄋ)", "(ᄌ)", "(ᄎ)"]),
   (0x320A, ["(ᄏ)", "(ᄐ)", "(ᄑ)", "(ᄒ)", "(가)", "(나)", "(다)", "(라)", "(마)", "(바)"]),
   (0x3214, ["(사)", "(아)", "(자)", "(차)", "(카)", "(타)", "(파)", "(하)", "(주)", "(오전)"]),
   (0x321E, ["(오후)"]),
   (0x3220, ["(一)", "(二)", "(三)", "(四)", "(五)", "(六)", "(七)", "(八)", "(九)", "(十)"]),
   (0x322A, ["(月)", "(火)", "(水)", "(木)", "(金)", "(土)", "(日)", "(株)", "(有)", "(社)"]),
   (0x3234, ["(名)", "(特)", "(財)", "(祝)", "(労)", "(代)", "(呼)", "(学)", "(監)", "(企)"]),
   (0x323E, ["(資)", "(協)", "(祭)", "(休)", "(自)", "(至)", "問", "幼", "文", "箏"]),
   (0x3250, ["pte", "21", "22", "23", "24", "25", "26", "27", "28", "29", "30", "31", "32"]),
   (0x325D, ["33", "34", "35"]), (0x327C, ["참고", "주의", "우"]),
   (0x32B1, ["36", "37", "38", "39", "40", "41", "42", "43", "44", "45", "46", "47", "48"]),
   (0x32BE, ["49", "50", "1月", "2月", "3月", "4月", "5月", "6月", "7月", "8月", "9月"]),
   (0x32C9, ["10月", "11月", "12月", "hg", "erg", "ev", "ltd"]),
   (0x32FB, ["ワ", "ヰ", "ヱ", "ヲ", "令和", "アパ\u30FCト", "アルファ", "アンペア"]),
   (0x3303, ["ア\u30FCル", "イニング", "インチ", "ウォン", "エスク\u30FCド"]),
   (0x3308, ["エ\u30FCカ\u30FC", "オンス", "オ\u30FCム", "カイリ", "カラット", "カロリ\u30FC"]),
   (0x330E, ["ガロン", "ガンマ", "ギガ", "ギニ\u30FC", "キュリ\u30FC", "ギルダ\u30FC", "キロ"]),
   (0x3315, ["キログラム", "キロメ\u30FCトル", "キロワット", "グラム", "グラムトン"]),
   (0x331A, ["クルゼイロ", "クロ\u30FCネ", "ケ\u30FCス", "コルナ", "コ\u30FCポ", "サイクル"]),
   (0x3320, ["サンチ\u30FCム", "シリング", "センチ", "セント", "ダ\u30FCス", "デシ", "ドル"]),
   (0x3327, ["トン", "ナノ", "ノット", "ハイツ", "パ\u30FCセント", "パ\u30FCツ"]),
   (0x332D, ["バ\u30FCレル", "ピアストル", "ピクル", "ピコ", "ビル", "ファラッド"]),
   (0x3333, ["フィ\u30FCト", "ブッシェル", "フラン", "ヘクタ\u30FCル", "ペソ", "ペニヒ"]),
   (0x3339, ["ヘルツ", "ペンス", "ペ\u30FCジ", "ベ\u30FCタ", "ポイント", "ボルト", "ホン"]),
   (0x3340, ["ポンド", "ホ\u30FCル", "ホ\u30FCン", "マイクロ", "マイル", "マッハ", "マルク"]),
   (0x3347, ["マンション", "ミクロン", "ミリ", "ミリバ\u30FCル", "メガ", "メガトン"]),
   (0x334D, ["メ\u30FCトル", "ヤ\u30FCド", "ヤ\u30FCル", "ユアン", "リットル", "リラ"]),
   (0x3353, ["ルピ\u30FC", "ル\u30FCブル", "レム", "レントゲン", "ワット", "0点", "1点"]),
   (0x335A, ["2点", "3点", "4点", "5点", "6点", "7点", "8点", "9点", "10点", "11点", "12点"]),
   (0x3365, ["13点", "14点", "15点", "16点", "17点", "18点", "19点", "20点", "21点", "22点"]),
   (0x336F, ["23点", "24点", "hpa", "da", "au", "bar", "ov", "pc", "dm", "dm2", "dm3", "iu"]),
   (0x337B, ["平成", "昭和", "大正", "明治", "株式会社", "pa", "na", "μa", "ma", "ka", "kb"]),
   (0x3386, ["mb", "gb", "cal", "kcal", "pf", "nf", "μf", "μg", "mg", "kg", "hz", "khz"]),
   (0x3392, ["mhz", "ghz", "thz", "μl", "ml", "dl", "kl", "fm", "nm", "μm", "mm", "cm", "km"]),
   (0x339F, ["mm2", "cm2", "m2", "km2", "mm3", "cm3", "m3", "km3", "m∕s", "m∕s2", "pa", "kpa"]),
   (0x33AB, ["mpa", "gpa", "rad", "rad∕s", "rad∕s2", "ps", "ns", "μs", "ms", "pv", "nv", "μv"]),
   (0x33B7, ["mv", "kv", "mv", "pw", "nw", "μw", "mw", "kw", "mw", "kω", "mω"]),
   (0x33C3, ["bq", "cc", "cd", "c∕kg"]),
   (0x33C8, ["db", "gy", "ha", "hp", "in", "kk", "km", "kt", "lm", "ln", "log", "lx", "mb"]),
   (0x33D5, ["mil", "mol", "ph"]),
   (0x33D9, ["ppm", "pr", "sr", "sv", "wb", "v∕m", "a∕m", "1日", "2日", "3日", "4日", "5日"]),
   (0x33E5, ["6日", "7日", "8日", "9日", "10日", "11日", "12日", "13日", "14日", "15日"]),
   (0x33EF, ["16日", "17日", "18日", "19日", "20日", "21日", "22日", "23日", "24日", "25日"]),
   (0x33F9, ["26日", "27日", "28日", "29日", "30日", "31日", "gal"]),
   (0xFB00, ["ff", "fi", "fl", "ffi", "ffl", "st", "st"]), (0xFB13, ["մն", "մե", "մի", "վն", "մխ"]),
   (0xFB1D, ["\u05D9\u05B4"]), (0xFB1F, ["\u05F2\u05B7"]),
   (0xFB2A, ["\u05E9\u05C1", "\u05E9\u05C2", "\u05E9\u05BC\u05C1", "\u05E9\u05BC\u05C2"]),
   (0xFB2E, ["\u05D0\u05B7", "\u05D0\u05B8", "\u05D0\u05BC", "\u05D1\u05BC", "\u05D2\u05BC"]),
   (0xFB33, ["\u05D3\u05BC", "\u05D4\u05BC", "\u05D5\u05BC", "\u05D6\u05BC"]),
   (0xFB38, ["\u05D8\u05BC", "\u05D9\u05BC", "\u05DA\u05BC", "\u05DB\u05BC", "\u05DC\u05BC"]),
   (0xFB3E, ["\u05DE\u05BC"]), (0xFB40, ["\u05E0\u05BC", "\u05E1\u05BC"]),
   (0xFB43, ["\u05E3\u05BC", "\u05E4\u05BC"]),
   (0xFB46, ["\u05E6\u05BC", "\u05E7\u05BC", "\u05E8\u05BC", "\u05E9\u05BC", "\u05EA\u05BC"]),
   (0xFB4B, ["\u05D5\u05B9", "\u05D1\u05BF", "\u05DB\u05BF", "\u05E4\u05BF", "\u05D0\u05DC"]),
   (0xFBDD, ["\u06C7\u0674"]),
   (0xFBEA, ["\u0626\u0627", "\u0626\u0627", "\u0626\u06D5", "\u0626\u06D5", "\u0626\u0648"]),
   (0xFBEF, ["\u0626\u0648", "\u0626\u06C7", "\u0626\u06C7", "\u0626\u06C6", "\u0626\u06C6"]),
   (0xFBF4, ["\u0626\u06C8", "\u0626\u06C8", "\u0626\u06D0", "\u0626\u06D0", "\u0626\u06D0"]),
   (0xFBF9, ["\u0626\u0649", "\u0626\u0649", "\u0626\u0649", "\u06CC", "\u06CC", "\u06CC"]),
   (0xFBFF, ["\u06CC", "\u0626\u062C", "\u0626\u062D", "\u0626\u0645", "\u0626\u0649"]),
   (0xFC04, ["\u0626\u064A", "\u0628\u062C", "\u0628\u062D", "\u0628\u062E", "\u0628\u0645"]),
   (0xFC09, ["\u0628\u0649", "\u0628\u064A", "\u062A\u062C", "\u062A\u062D", "\u062A\u062E"]),
   (0xFC0E, ["\u062A\u0645", "\u062A\u0649", "\u062A\u064A", "\u062B\u062C", "\u062B\u0645"]),
   (0xFC13, ["\u062B\u0649", "\u062B\u064A", "\u062C\u062D", "\u062C\u0645", "\u062D\u062C"]),
   (0xFC18, ["\u062D\u0645", "\u062E\u062C", "\u062E\u062D", "\u062E\u0645", "\u0633\u062C"]),
   (0xFC1D, ["\u0633\u062D", "\u0633\u062E", "\u0633\u0645", "\u0635\u062D", "\u0635\u0645"]),
   (0xFC22, ["\u0636\u062C", "\u0636\u062D", "\u0636\u062E", "\u0636\u0645", "\u0637\u062D"]),
   (0xFC27, ["\u0637\u0645", "\u0638\u0645", "\u0639\u062C", "\u0639\u0645", "\u063A\u062C"]),
   (0xFC2C, ["\u063A\u0645", "\u0641\u062C", "\u0641\u062D", "\u0641\u062E", "\u0641\u0645"]),
   (0xFC31, ["\u0641\u0649", "\u0641\u064A", "\u0642\u062D", "\u0642\u0645", "\u0642\u0649"]),
   (0xFC36, ["\u0642\u064A", "\u0643\u0627", "\u0643\u062C", "\u0643\u062D", "\u0643\u062E"]),
   (0xFC3B, ["\u0643\u0644", "\u0643\u0645", "\u0643\u0649", "\u0643\u064A", "\u0644\u062C"]),
   (0xFC40, ["\u0644\u062D", "\u0644\u062E", "\u0644\u0645", "\u0644\u0649", "\u0644\u064A"]),
   (0xFC45, ["\u0645\u062C", "\u0645\u062D", "\u0645\u062E", "\u0645\u0645", "\u0645\u0649"]),
   (0xFC4A, ["\u0645\u064A", "\u0646\u062C", "\u0646\u062D", "\u0646\u062E", "\u0646\u0645"]),
   (0xFC4F, ["\u0646\u0649", "\u0646\u064A", "\u0647\u062C", "\u0647\u0645", "\u0647\u0649"]),
   (0xFC54, ["\u0647\u064A", "\u064A\u062C", "\u064A\u062D", "\u064A\u062E", "\u064A\u0645"]),
   (0xFC59, ["\u064A\u0649", "\u064A\u064A", "\u0630\u0670", "\u0631\u0670", "\u0649\u0670"]),
   (0xFC5E, [" \u064C\u0651", " \u064D\u0651", " \u064E\u0651", " \u064F\u0651"]),
   (0xFC62, [" \u0650\u0651", " \u0651\u0670", "\u0626\u0631", "\u0626\u0632", "\u0626\u0645"]),
   (0xFC67, ["\u0626\u0646", "\u0626\u0649", "\u0626\u064A", "\u0628\u0631", "\u0628\u0632"]),
   (0xFC6C, ["\u0628\u0645", "\u0628\u0646", "\u0628\u0649", "\u0628\u064A", "\u062A\u0631"]),
   (0xFC71, ["\u062A\u0632", "\u062A\u0645", "\u062A\u0646", "\u062A\u0649", "\u062A\u064A"]),
   (0xFC76, ["\u062B\u0631", "\u062B\u0632", "\u062B\u0645", "\u062B\u0646", "\u062B\u0649"]),
   (0xFC7B, ["\u062B\u064A", "\u0641\u0649", "\u0641\u064A", "\u0642\u0649", "\u0642\u064A"]),
   (0xFC80, ["\u0643\u0627", "\u0643\u0644", "\u0643\u0645", "\u0643\u0649", "\u0643\u064A"]),
   (0xFC85, ["\u0644\u0645", "\u0644\u0649", "\u0644\u064A", "\u0645\u0627", "\u0645\u0645"]),
   (0xFC8A, ["\u0646\u0631", "\u0646\u0632", "\u0646\u0645", "\u0646\u0646", "\u0646\u0649"]),
   (0xFC8F, ["\u0646\u064A", "\u0649\u0670", "\u064A\u0631", "\u064A\u0632", "\u064A\u0645"]),
   (0xFC94, ["\u064A\u0646", "\u064A\u0649", "\u064A\u064A", "\u0626\u062C", "\u0626\u062D"]),
   (0xFC99, ["\u0626\u062E", "\u0626\u0645", "\u0626\u0647", "\u0628\u062C", "\u0628\u062D"]),
   (0xFC9E, ["\u0628\u062E", "\u0628\u0645", "\u0628\u0647", "\u062A\u062C", "\u062A\u062D"]),
   (0xFCA3, ["\u062A\u062E", "\u062A\u0645", "\u062A\u0647", "\u062B\u0645", "\u062C\u062D"]),
   (0xFCA8, ["\u062C\u0645", "\u062D\u062C", "\u062D\u0645", "\u062E\u062C", "\u062E\u0645"]),
   (0xFCAD, ["\u0633\u062C", "\u0633\u062D", "\u0633\u062E", "\u0633\u0645", "\u0635\u062D"]),
   (0xFCB2, ["\u0635\u062E", "\u0635\u0645", "\u0636\u062C", "\u0636\u062D", "\u0636\u062E"]),
   (0xFCB7, ["\u0636\u0645", "\u0637\u062D", "\u0638\u0645", "\u0639\u062C", "\u0639\u0645"]),
   (0xFCBC, ["\u063A\u062C", "\u063A\u0645", "\u0641\u062C", "\u0641\u062D", "\u0641\u062E"]),
   (0xFCC1, ["\u0641\u0645", "\u0642\u062D", "\u0642\u0645", "\u0643\u062C", "\u0643\u062D"]),
   (0xFCC6, ["\u0643\u062E", "\u0643\u0644", "\u0643\u0645", "\u0644\u062C", "\u0644\u062D"]),
   (0xFCCB, ["\u0644\u062E", "\u0644\u0645", "\u0644\u0647", "\u0645\u062C", "\u0645\u062D"]),
   (0xFCD0, ["\u0645\u062E", "\u0645\u0645", "\u0646\u062C", "\u0646\u062D", "\u0646\u062E"]),
   (0xFCD5, ["\u0646\u0645", "\u0646\u0647", "\u0647\u062C", "\u0647\u0645", "\u0647\u0670"]),
   (0xFCDA, ["\u064A\u062C", "\u064A\u062D", "\u064A\u062E", "\u064A\u0645", "\u064A\u0647"]),
   (0xFCDF, ["\u0626\u0645", "\u0626\u0647", "\u0628\u0645", "\u0628\u0647", "\u062A\u0645"]),
   (0xFCE4, ["\u062A\u0647", "\u062B\u0645", "\u062B\u0647", "\u0633\u0645", "\u0633\u0647"]),
   (0xFCE9, ["\u0634\u0645", "\u0634\u0647", "\u0643\u0644", "\u0643\u0645", "\u0644\u0645"]),
   (0xFCEE, ["\u0646\u0645", "\u0646\u0647", "\u064A\u0645", "\u064A\u0647"]),
   (0xFCF2, ["\u0640\u064E\u0651", "\u0640\u064F\u0651", "\u0640\u0650\u0651", "\u0637\u0649"]),
   (0xFCF6, ["\u0637\u064A", "\u0639\u0649", "\u0639\u064A", "\u063A\u0649", "\u063A\u064A"]),
   (0xFCFB, ["\u0633\u0649", "\u0633\u064A", "\u0634\u0649", "\u0634\u064A", "\u062D\u0649"]),
   (0xFD00, ["\u062D\u064A", "\u062C\u0649", "\u062C\u064A", "\u062E\u0649", "\u062E\u064A"]),
   (0xFD05, ["\u0635\u0649", "\u0635\u064A", "\u0636\u0649", "\u0636\u064A", "\u0634\u062C"]),
   (0xFD0A, ["\u0634\u062D", "\u0634\u062E", "\u0634\u0645", "\u0634\u0631", "\u0633\u0631"]),
   (0xFD0F, ["\u0635\u0631", "\u0636\u0631", "\u0637\u0649", "\u0637\u064A", "\u0639\u0649"]),
   (0xFD14, ["\u0639\u064A", "\u063A\u0649", "\u063A\u064A", "\u0633\u0649", "\u0633\u064A"]),
   (0xFD19, ["\u0634\u0649", "\u0634\u064A", "\u062D\u0649", "\u062D\u064A", "\u062C\u0649"]),
   (0xFD1E, ["\u062C\u064A", "\u062E\u0649", "\u062E\u064A", "\u0635\u0649", "\u0635\u064A"]),
   (0xFD23, ["\u0636\u0649", "\u0636\u064A", "\u0634\u062C", "\u0634\u062D", "\u0634\u062E"]),
   (0xFD28, ["\u0634\u0645", "\u0634\u0631", "\u0633\u0631", "\u0635\u0631", "\u0636\u0631"]),
   (0xFD2D, ["\u0634\u062C", "\u0634\u062D", "\u0634\u062E", "\u0634\u0645", "\u0633\u0647"]),
   (0xFD32, ["\u0634\u0647", "\u0637\u0645", "\u0633\u062C", "\u0633\u062D", "\u0633\u062E"]),
   (0xFD37, ["\u0634\u062C", "\u0634\u062D", "\u0634\u062E", "\u0637\u0645", "\u0638\u0645"]),
   (0xFD3C, ["\u0627\u064B", "\u0627\u064B"]),
   (0xFD50, ["\u062A\u062C\u0645", "\u062A\u062D\u062C", "\u062A\u062D\u062C"]),
   (0xFD53, ["\u062A\u062D\u0645", "\u062A\u062E\u0645", "\u062A\u0645\u062C"]),
   (0xFD56, ["\u062A\u0645\u062D", "\u062A\u0645\u062E", "\u062C\u0645\u062D"]),
   (0xFD59, ["\u062C\u0645\u062D", "\u062D\u0645\u064A", "\u062D\u0645\u0649"]),
   (0xFD5C, ["\u0633\u062D\u062C", "\u0633\u062C\u062D", "\u0633\u062C\u0649"]),
   (0xFD5F, ["\u0633\u0645\u062D", "\u0633\u0645\u062D", "\u0633\u0645\u062C"]),
   (0xFD62, ["\u0633\u0645\u0645", "\u0633\u0645\u0645", "\u0635\u062D\u062D"]),
   (0xFD65, ["\u0635\u062D\u062D", "\u0635\u0645\u0645", "\u0634\u062D\u0645"]),
   (0xFD68, ["\u0634\u062D\u0645", "\u0634\u062C\u064A", "\u0634\u0645\u062E"]),
   (0xFD6B, ["\u0634\u0645\u062E", "\u0634\u0645\u0645", "\u0634\u0645\u0645"]),
   (0xFD6E, ["\u0636\u062D\u0649", "\u0636\u062E\u0645", "\u0636\u062E\u0645"]),
   (0xFD71, ["\u0637\u0645\u062D", "\u0637\u0645\u062D", "\u0637\u0645\u0645"]),
   (0xFD74, ["\u0637\u0645\u064A", "\u0639\u062C\u0645", "\u0639\u0645\u0645"]),
   (0xFD77, ["\u0639\u0645\u0645", "\u0639\u0645\u0649", "\u063A\u0645\u0645"]),
   (0xFD7A, ["\u063A\u0645\u064A", "\u063A\u0645\u0649", "\u0641\u062E\u0645"]),
   (0xFD7D, ["\u0641\u062E\u0645", "\u0642\u0645\u062D", "\u0642\u0645\u0645"]),
   (0xFD80, ["\u0644\u062D\u0645", "\u0644\u062D\u064A", "\u0644\u062D\u0649"]),
   (0xFD83, ["\u0644\u062C\u062C", "\u0644\u062C\u062C", "\u0644\u062E\u0645"]),
   (0xFD86, ["\u0644\u062E\u0645", "\u0644\u0645\u062D", "\u0644\u0645\u062D"]),
   (0xFD89, ["\u0645\u062D\u062C", "\u0645\u062D\u0645", "\u0645\u062D\u064A"]),
   (0xFD8C, ["\u0645\u062C\u062D", "\u0645\u062C\u0645", "\u0645\u062E\u062C"]),
   (0xFD8F, ["\u0645\u062E\u0645"]),
   (0xFD92, ["\u0645\u062C\u062E", "\u0647\u0645\u062C", "\u0647\u0645\u0645"]),
   (0xFD95, ["\u0646\u062D\u0645", "\u0646\u062D\u0649", "\u0646\u062C\u0645"]),
   (0xFD98, ["\u0646\u062C\u0645", "\u0646\u062C\u0649", "\u0646\u0645\u064A"]),
   (0xFD9B, ["\u0646\u0645\u0649", "\u064A\u0645\u0645", "\u064A\u0645\u0645"]),
   (0xFD9E, ["\u0628\u062E\u064A", "\u062A\u062C\u064A", "\u062A\u062C\u0649"]),
   (0xFDA1, ["\u062A\u062E\u064A", "\u062A\u062E\u0649", "\u062A\u0645\u064A"]),
   (0xFDA4, ["\u062A\u0645\u0649", "\u062C\u0645\u064A", "\u062C\u062D\u0649"]),
   (0xFDA7, ["\u062C\u0645\u0649", "\u0633\u062E\u0649", "\u0635\u062D\u064A"]),
   (0xFDAA, ["\u0634\u062D\u064A", "\u0636\u062D\u064A", "\u0644\u062C\u064A"]),
   (0xFDAD, ["\u0644\u0645\u064A", "\u064A\u062D\u064A", "\u064A\u062C\u064A"]),
   (0xFDB0, ["\u064A\u0645\u064A", "\u0645\u0645\u064A", "\u0642\u0645\u064A"]),
   (0xFDB3, ["\u0646\u062D\u064A", "\u0642\u0645\u062D", "\u0644\u062D\u0645"]),
   (0xFDB6, ["\u0639\u0645\u064A", "\u0643\u0645\u064A", "\u0646\u062C\u062D"]),
   (0xFDB9, ["\u0645\u062E\u064A", "\u0644\u062C\u0645", "\u0643\u0645\u0645"]),
   (0xFDBC, ["\u0644\u062C\u0645", "\u0646\u062C\u062D", "\u062C\u062D\u064A"]),
   (0xFDBF, ["\u062D\u062C\u064A", "\u0645\u062C\u064A", "\u0641\u0645\u064A"]),
   (0xFDC2, ["\u0628\u062D\u064A", "\u0643\u0645\u0645", "\u0639\u062C\u0645"]),
   (0xFDC5, ["\u0635\u0645\u0645", "\u0633\u062E\u064A", "\u0646\u062C\u064A"]),
   (0xFDF0, ["\u0635\u0644\u06D2", "\u0642\u0644\u06D2", "\u0627\u0644\u0644\u0647"]),
   (0xFDF3, ["\u0627\u0643\u0628\u0631", "\u0645\u062D\u0645\u062F"]),
   (0xFDF5, ["\u0635\u0644\u0639\u0645", "\u0631\u0633\u0648\u0644"]),
   (0xFDF7, ["\u0639\u0644\u064A\u0647", "\u0648\u0633\u0644\u0645", "\u0635\u0644\u0649"]),
   (0xFDFA,
     ["\u0635\u0644\u0649 \u0627\u0644\u0644\u0647 \u0639\u0644\u064A\u0647 \u0648\u0633\u0644\u0645"]),
   (0xFDFB, ["\u062C\u0644 \u062C\u0644\u0627\u0644\u0647", "\u0631\u06CC\u0627\u0644"]),
   (0xFE47, ["[", "]", " \u0305", " \u0305", " \u0305", " \u0305", "_", "_", "_", ",", "、"]),
   (0xFE70, [" \u064B", "\u0640\u064B", " \u064C"]), (0xFE74, [" \u064D"]),
   (0xFE76, [" \u064E", "\u0640\u064E", " \u064F", "\u0640\u064F", " \u0650", "\u0640\u0650"]),
   (0xFE7C, [" \u0651", "\u0640\u0651", " \u0652", "\u0640\u0652"]),
   (0xFEF5, ["\u0644\u0622", "\u0644\u0622", "\u0644\u0623", "\u0644\u0623", "\u0644\u0625"]),
   (0xFEFA, ["\u0644\u0625", "\u0644\u0627", "\u0644\u0627"]),
   (0xFFE0, ["¢", "£", "¬", " \u0304", "¦", "¥", "₩"]),
   (0x1D15E, ["𝅗𝅥", "𝅘𝅥", "𝅘𝅥𝅮", "𝅘𝅥𝅯", "𝅘𝅥𝅰", "𝅘𝅥𝅱", "𝅘𝅥𝅲"]),
   (0x1D1BB, ["𝆹𝅥", "𝆺𝅥", "𝆹𝅥𝅮", "𝆺𝅥𝅮", "𝆹𝅥𝅯", "𝆺𝅥𝅯"]),
   (0x1F101, ["0,", "1,", "2,", "3,", "4,", "5,", "6,", "7,", "8,", "9,"]),
   (0x1F110, ["(a)", "(b)", "(c)", "(d)", "(e)", "(f)", "(g)", "(h)", "(i)", "(j)", "(k)"]),
   (0x1F11B, ["(l)", "(m)", "(n)", "(o)", "(p)", "(q)", "(r)", "(s)", "(t)", "(u)", "(v)"]),
   (0x1F126, ["(w)", "(x)", "(y)", "(z)", "〔s〕", "c", "r", "cd", "wz"]),
   (0x1F14A, ["hv", "mv", "sd", "ss", "ppv", "wc"]), (0x1F16A, ["mc", "md", "mr"]),
   (0x1F190, ["dj"]), (0x1F200, ["ほか", "ココ", "サ"]),
   (0x1F240, ["〔本〕", "〔三〕", "〔二〕", "〔安〕", "〔点〕", "〔打〕", "〔盗〕", "〔勝〕"]),
   (0x1F248, ["〔敗〕"])]

/-! ## §2 What a character stands for -/

/-- What a character of a name stands for. None if names do not have it. -/
def meaning? (c : Char) : Option (List Char) :=
  let n := c.toNat
  if mayHave c then some [c]
  -- Of ASCII only the capitals are mapped; what no name may have is refused later.
  else if n < 0x80 then some [c.toLower]
  else if CharRange.holds ignoredChars c then some []
  else if CharRange.alternates pairedCapitals c then some [Char.ofNat (n + 1)]
  else
    let shifted := shiftedChars.find? fun (first, last, _) => first ≤ n && n ≤ last
    let single := singleChars.findSome? fun (first, text) =>
      if first ≤ n then text.toList[n - first]? else none
    let spelled := spelledChars.findSome? fun (first, texts) =>
      if first ≤ n then texts[n - first]? else none
    (shifted.map fun (first, _, start) => [Char.ofNat (start + (n - first))])
      <|> single.map ([·]) <|> spelled.map String.toList

end Shuffle.Label
