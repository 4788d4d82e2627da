import MarkupQuery.Text.Range

/-!
# Compatible parts

The characters that stand for others which mean the same in another form, in runs of neighbours: the
first of a run, and the parts of all of them.
-/

namespace MarkupQuery.Text.Normal

/-- Characters that stand for one other. -/
def likeSingles : List (Nat × String) :=
  [(0xA0, " "), (0xAA, "a"), (0xB2, "23"), (0xB5, "μ"), (0xB9, "1o"), (0x17F, "s"),
   (0x2B0, "hɦjrɹɻʁwy"), (0x2E0, "ɣlsxʕ"), (0x3D0, "βθΥ"), (0x3D5, "φπ"), (0x3F0, "κρς"),
   (0x3F4, "Θε"), (0x3F9, "Σ"), (0xF0C, "་"), (0x10FC, "ნ"), (0x1D2C, "AÆB"),
   (0x1D30, "DEƎGHIJKLMN"), (0x1D3C, "OȢPRTUWaɐɑᴂbdeəɛɜg"),
   (0x1D4F, "kmŋoɔᴖᴗptuᴝɯvᴥβγδφχiruvβγρφχ"), (0x1D78, "н"),
   (0x1D9B, "ɒcɕðɜfɟɡɥɨɩɪᵻʝɭᶅʟɱɰɲɳɴɵɸʂʃƫʉʊᴜʋʌzʐʑʒθ"), (0x2002, "         "), (0x2011, "‐"),
   (0x2024, "."), (0x202F, " "), (0x205F, " "), (0x2070, "0i"),
   (0x2074, "456789+−=()n0123456789+−=()"), (0x2090, "aeoxəhklmnpst"), (0x2102, "C"), (0x2107, "Ɛ"),
   (0x210A, "gHHHhħIILl"), (0x2115, "N"), (0x2119, "PQRRR"), (0x2124, "Z"), (0x2128, "Z"),
   (0x212C, "BC"), (0x212F, "eEF"), (0x2133, "Moאבגדi"), (0x213C, "πγΓΠ∑"), (0x2145, "Ddeij"),
   (0x2160, "I"), (0x2164, "V"), (0x2169, "X"), (0x216C, "LCDMi"), (0x2174, "v"), (0x2179, "x"),
   (0x217C, "lcdm"), (0x2460, "123456789"), (0x24B6, "ABCDEFGHIJKLMNOPQRSTUVWXYZabcdefghijklmn"),
   (0x24DE, "opqrstuvwxyz0"), (0x2C7C, "jV"), (0x2D6F, "ⵡ"), (0x2E9F, "母"), (0x2EF3, "龟"),
   (0x2F00, "一丨丶丿乙亅二亠人儿入八冂冖冫几凵刀力勹匕匚匸十卜卩厂厶又口囗土士夂夊夕大女子宀"),
   (0x2F28, "寸小尢尸屮山巛工己巾干幺广廴廾弋弓彐彡彳心戈戶手支攴文斗斤方无日曰月木欠止歹殳毋"),
   (0x2F50, "比毛氏气水火爪父爻爿片牙牛犬玄玉瓜瓦甘生用田疋疒癶白皮皿目矛矢石示禸禾穴立竹米糸"),
   (0x2F78, "缶网羊羽老而耒耳聿肉臣自至臼舌舛舟艮色艸虍虫血行衣襾見角言谷豆豕豸貝赤走足身車辛"),
   (0x2FA0, "辰辵邑酉釆里金長門阜隶隹雨靑非面革韋韭音頁風飛食首香馬骨高髟鬥鬯鬲鬼魚鳥鹵鹿麥麻"), (0x2FC8, "黃黍黑黹黽鼎鼓鼠鼻齊齒龍龜龠"), (0x3000, " "),
   (0x3036, "〒"), (0x3038, "十卄卅"), (0x3131, "ᄀᄁᆪᄂᆬᆭᄃᄄᄅᆰᆱᆲᆳᆴᆵᄚᄆᄇᄈᄡᄉᄊᄋᄌᄍᄎᄏᄐᄑ하ᅢᅣᅤᅥᅦᅧᅨᅩᅪ"),
   (0x3159, "ᅫᅬᅭᅮᅯᅰᅱᅲᅳᅴᅵᅠᄔᄕᇇᇈᇌᇎᇓᇗᇙᄜᇝᇟᄝᄞᄠᄢᄣᄧᄩᄫᄬᄭᄮᄯᄲᄶᅀᅇ"), (0x3181, "ᅌᇱᇲᅗᅘᅙᆄᆅᆈᆑᆒᆔᆞᆡ"),
   (0x3192, "一二三四上中下甲乙丙丁天地人"), (0x3244, "問幼文箏"), (0x3260, "ᄀᄂᄃᄅᄆᄇᄉᄋᄌᄎᄏᄐᄑᄒ"),
   (0x3280, "一二三四五六七八九十月火水木金土日株有社名特財祝労秘男女適優印注項休写正上中下左"), (0x32A8, "右医宗学監企資協夜"),
   (0x32D0, "アイウエオカキクケコサシスセソタチツテトナニヌネノハヒフヘホマミムメモヤユヨラリ"), (0x32F8, "ルレロワヰヱヲ"), (0xA69C, "ъь"),
   (0xA770, "ꝯ"), (0xA7F2, "CFQ"), (0xA7F8, "Ħœ"), (0xAB5C, "ꜧꬷɫꭒ"), (0xAB69, "ʍ"),
   (0xFB20, "עאדהכלםרת+"), (0xFB50, "ٱٱٻٻٻٻپپپپڀڀڀڀٺٺٺٺٿٿٿٿٹٹٹٹڤڤڤڤڦڦڦڦڄڄڄڄڃڃ"),
   (0xFB78, "ڃڃچچچچڇڇڇڇڍڍڌڌڎڎڈڈژژڑڑککککگگگگڳڳڳڳڱڱڱڱںں"), (0xFBA0, "ڻڻڻڻۀۀہہہہھھھھےےۓۓ"),
   (0xFBD3, "ڭڭڭڭۇۇۆۆۈۈٷۋۋۅۅۉۉېېېېىى"), (0xFBFC, "یییی"), (0xFE10, ",、。:;!?〖〗…"),
   (0xFE30, "‥—–__()\x7b\x7d〔〕【】《》〈〉「」『』"), (0xFE47, "[]‾‾‾‾___,、."),
   (0xFE54, ";:?!—()\x7b\x7d〔〕#&*+-<>="), (0xFE68, "\\$%@"),
   (0xFE80, "ءآآأأؤؤإإئئئئااببببةةتتتتثثثثججججححححخخخ"),
   (0xFEA8, "خددذذررززسسسسششششصصصصضضضضططططظظظظععععغغغ"),
   (0xFED0, "غففففققققككككللللممممننننههههووىىيييي"),
   (0xFF01, "!\"#$%&'()*+,-./0123456789:;<=>?@ABCDEFGH"),
   (0xFF29, "IJKLMNOPQRSTUVWXYZ[\\]^_\x60abcdefghijklmnop"),
   (0xFF51, "qrstuvwxyz\x7b|\x7d~⦅⦆。「」、・ヲァィゥェォャュョッーアイウエオカキク"),
   (0xFF79, "ケコサシスセソタチツテトナニヌネノハヒフヘホマミムメモヤユヨラリルレロワン\u3099\u309aㅤ"),
   (0xFFA1, "ㄱㄲㄳㄴㄵㄶㄷㄸㄹㄺㄻㄼㄽㄾㄿㅀㅁㅂㅃㅄㅅㅆㅇㅈㅉㅊㅋㅌㅍㅎ"), (0xFFC2, "ㅏㅐㅑㅒㅓㅔ"), (0xFFCA, "ㅕㅖㅗㅘㅙㅚ"),
   (0xFFD2, "ㅛㅜㅝㅞㅟㅠ"), (0xFFDA, "ㅡㅢㅣ"), (0xFFE0, "¢£¬\u00af¦¥₩"), (0xFFE8, "│←↑→↓■○"),
   (0x10781, "ːˑæʙɓ"), (0x10787, "ʣꭦʥʤɖɗᶑɘɞʩɤɢɠʛħʜɧʄʪʫɬ𝼄ꞎɮ𝼅ʎ𝼆øɶɷqɺ𝼈ɽɾʀʨʦꭧʧ"), (0x107AF, "ʈⱱ"),
   (0x107B2, "ʏʡʢʘǀǁǂ𝼊𝼞"), (0x1D400, "ABCDEFGHIJKLMNOPQRSTUVWXYZabcdefghijklmn"),
   (0x1D428, "opqrstuvwxyzABCDEFGHIJKLMNOPQRSTUVWXYZab"), (0x1D450, "cdefg"),
   (0x1D456, "ijklmnopqrstuvwxyzABCDEFGHIJKLMNOPQRSTUV"),
   (0x1D47E, "WXYZabcdefghijklmnopqrstuvwxyzA"), (0x1D49E, "CD"), (0x1D4A2, "G"), (0x1D4A5, "JK"),
   (0x1D4A9, "NOPQ"), (0x1D4AE, "STUVWXYZabcd"), (0x1D4BB, "f"), (0x1D4BD, "hijklmn"),
   (0x1D4C5, "pqrstuvwxyzABCDEFGHIJKLMNOPQRSTUVWXYZabc"), (0x1D4ED, "defghijklmnopqrstuvwxyzAB"),
   (0x1D507, "DEFG"), (0x1D50D, "JKLMNOPQ"), (0x1D516, "STUVWXY"),
   (0x1D51E, "abcdefghijklmnopqrstuvwxyzAB"), (0x1D53B, "DEFG"), (0x1D540, "IJKLM"), (0x1D546, "O"),
   (0x1D54A, "STUVWXY"), (0x1D552, "abcdefghijklmnopqrstuvwxyzABCDEFGHIJKLMN"),
   (0x1D57A, "OPQRSTUVWXYZabcdefghijklmnopqrstuvwxyzAB"),
   (0x1D5A2, "CDEFGHIJKLMNOPQRSTUVWXYZabcdefghijklmnop"),
   (0x1D5CA, "qrstuvwxyzABCDEFGHIJKLMNOPQRSTUVWXYZabcd"),
   (0x1D5F2, "efghijklmnopqrstuvwxyzABCDEFGHIJKLMNOPQR"),
   (0x1D61A, "STUVWXYZabcdefghijklmnopqrstuvwxyzABCDEF"),
   (0x1D642, "GHIJKLMNOPQRSTUVWXYZabcdefghijklmnopqrst"),
   (0x1D66A, "uvwxyzABCDEFGHIJKLMNOPQRSTUVWXYZabcdefgh"), (0x1D692, "ijklmnopqrstuvwxyzıȷ"),
   (0x1D6A8, "ΑΒΓΔΕΖΗΘΙΚΛΜΝΞΟΠΡϴΣΤΥΦΧΨΩ∇αβγδεζηθικλμνξ"),
   (0x1D6D0, "οπρςστυφχψω∂ϵϑϰϕϱϖΑΒΓΔΕΖΗΘΙΚΛΜΝΞΟΠΡϴΣΤΥΦ"),
   (0x1D6F8, "ΧΨΩ∇αβγδεζηθικλμνξοπρςστυφχψω∂ϵϑϰϕϱϖΑΒΓΔ"),
   (0x1D720, "ΕΖΗΘΙΚΛΜΝΞΟΠΡϴΣΤΥΦΧΨΩ∇αβγδεζηθικλμνξοπρς"),
   (0x1D748, "στυφχψω∂ϵϑϰϕϱϖΑΒΓΔΕΖΗΘΙΚΛΜΝΞΟΠΡϴΣΤΥΦΧΨΩ∇"),
   (0x1D770, "αβγδεζηθικλμνξοπρςστυφχψω∂ϵϑϰϕϱϖΑΒΓΔΕΖΗΘ"),
   (0x1D798, "ΙΚΛΜΝΞΟΠΡϴΣΤΥΦΧΨΩ∇αβγδεζηθικλμνξοπρςστυφ"), (0x1D7C0, "χψω∂ϵϑϰϕϱϖϜϝ"),
   (0x1D7CE, "0123456789012345678901234567890123456789"), (0x1D7F6, "0123456789"),
   (0x1EE00, "ابجد"), (0x1EE05, "وزحطيكلمنسعفصقرشتثخذضظغٮںڡٯ"), (0x1EE21, "بج"), (0x1EE24, "ه"),
   (0x1EE27, "ح"), (0x1EE29, "يكلمنسعفصق"), (0x1EE34, "شتثخ"), (0x1EE39, "ض"), (0x1EE3B, "غ"),
   (0x1EE42, "ج"), (0x1EE47, "ح"), (0x1EE49, "ي"), (0x1EE4B, "ل"), (0x1EE4D, "نسع"),
   (0x1EE51, "صق"), (0x1EE54, "ش"), (0x1EE57, "خ"), (0x1EE59, "ض"), (0x1EE5B, "غ"), (0x1EE5D, "ں"),
   (0x1EE5F, "ٯ"), (0x1EE61, "بج"), (0x1EE64, "ه"), (0x1EE67, "حطيك"), (0x1EE6C, "منسعفصق"),
   (0x1EE74, "شتثخ"), (0x1EE79, "ضظغٮ"), (0x1EE7E, "ڡ"), (0x1EE80, "ابجدهوزحطي"),
   (0x1EE8B, "لمنسعفصقرشتثخذضظغ"), (0x1EEA1, "بجد"), (0x1EEA5, "وزحطي"),
   (0x1EEAB, "لمنسعفصقرشتثخذضظغ"), (0x1F12B, "CR"), (0x1F130, "ABCDEFGHIJKLMNOPQRSTUVWXYZ"),
   (0x1F202, "サ"), (0x1F210, "手字双デ二多解天交映無料前後再新初終生販声吹演投捕一三遊左中右指走打禁空合満有月"), (0x1F238, "申割営配"),
   (0x1F250, "得可"), (0x1FBF0, "0123456789")]

/-- Characters that stand for several others. -/
def likeGroups : List (Nat × List String) :=
  [(0xA8, [" \u0308"]), (0xAF, [" \u0304"]), (0xB4, [" \u0301"]), (0xB8, [" \u0327"]),
   (0xBC, ["1⁄4", "1⁄2", "3⁄4"]), (0x132, ["IJ", "ij"]), (0x13F, ["L·", "l·"]), (0x149, ["ʼn"]),
   (0x1C4, ["DŽ", "Dž", "dž", "LJ", "Lj"]), (0x1C9, ["lj", "NJ", "Nj", "nj"]),
   (0x1F1, ["DZ", "Dz", "dz"]), (0x2D8, [" \u0306", " \u0307", " \u030a", " \u0328", " \u0303"]),
   (0x2DD, [" \u030b"]), (0x37A, [" \u0345"]), (0x384, [" \u0301"]), (0x587, ["եւ"]),
   (0x675, ["اٴ", "وٴ", "ۇٴ", "يٴ"]), (0xE33, ["\u0e4dา"]), (0xEB3, ["\u0ecdາ"]),
   (0xEDC, ["ຫນ", "ຫມ"]), (0xF77, ["\u0fb2\u0f81"]), (0xF79, ["\u0fb3\u0f81"]), (0x1E9A, ["aʾ"]),
   (0x1FBD, [" \u0313"]), (0x1FBF, [" \u0313", " \u0342"]), (0x1FFE, [" \u0314"]),
   (0x2017, [" \u0333"]), (0x2025, ["..", "..."]), (0x2033, ["′′", "′′′"]), (0x2036, ["‵‵", "‵‵‵"]),
   (0x203C, ["!!"]), (0x203E, [" \u0305"]), (0x2047, ["??", "?!", "!?"]), (0x2057, ["′′′′"]),
   (0x20A8, ["Rs"]), (0x2100, ["a/c", "a/s"]), (0x2103, ["°C"]), (0x2105, ["c/o", "c/u"]),
   (0x2109, ["°F"]), (0x2116, ["No"]), (0x2120, ["SM", "TEL", "TM"]), (0x213B, ["FAX"]),
   (0x2150, ["1⁄7", "1⁄9", "1⁄10", "1⁄3", "2⁄3"]), (0x2155, ["1⁄5", "2⁄5", "3⁄5", "4⁄5", "1⁄6"]),
   (0x215A, ["5⁄6", "1⁄8", "3⁄8", "5⁄8", "7⁄8"]), (0x215F, ["1⁄"]), (0x2161, ["II", "III", "IV"]),
   (0x2165, ["VI", "VII", "VIII", "IX"]), (0x216A, ["XI", "XII"]), (0x2171, ["ii", "iii", "iv"]),
   (0x2175, ["vi", "vii", "viii", "ix"]), (0x217A, ["xi", "xii"]), (0x2189, ["0⁄3"]),
   (0x222C, ["∫∫", "∫∫∫"]), (0x222F, ["∮∮", "∮∮∮"]), (0x2469, ["10", "11", "12", "13", "14"]),
   (0x246E, ["15", "16", "17", "18", "19"]), (0x2473, ["20", "(1)", "(2)", "(3)", "(4)"]),
   (0x2478, ["(5)", "(6)", "(7)", "(8)", "(9)"]),
   (0x247D, ["(10)", "(11)", "(12)", "(13)", "(14)"]),
   (0x2482, ["(15)", "(16)", "(17)", "(18)", "(19)"]), (0x2487, ["(20)", "1.", "2.", "3.", "4."]),
   (0x248C, ["5.", "6.", "7.", "8.", "9."]), (0x2491, ["10.", "11.", "12.", "13.", "14."]),
   (0x2496, ["15.", "16.", "17.", "18.", "19."]), (0x249B, ["20.", "(a)", "(b)", "(c)", "(d)"]),
   (0x24A0, ["(e)", "(f)", "(g)", "(h)", "(i)"]), (0x24A5, ["(j)", "(k)", "(l)", "(m)", "(n)"]),
   (0x24AA, ["(o)", "(p)", "(q)", "(r)", "(s)"]), (0x24AF, ["(t)", "(u)", "(v)", "(w)", "(x)"]),
   (0x24B4, ["(y)", "(z)"]), (0x2A0C, ["∫∫∫∫"]), (0x2A74, ["::=", "==", "==="]),
   (0x309B, [" \u3099", " \u309a"]), (0x309F, ["より"]), (0x30FF, ["コト"]),
   (0x3200, ["(ᄀ)", "(ᄂ)", "(ᄃ)", "(ᄅ)", "(ᄆ)"]), (0x3205, ["(ᄇ)", "(ᄉ)", "(ᄋ)", "(ᄌ)", "(ᄎ)"]),
   (0x320A, ["(ᄏ)", "(ᄐ)", "(ᄑ)", "(ᄒ)", "(가)"]),
   (0x320F, ["(나)", "(다)", "(라)", "(마)", "(바)"]),
   (0x3214, ["(사)", "(아)", "(자)", "(차)", "(카)"]),
   (0x3219, ["(타)", "(파)", "(하)", "(주)", "(오전)"]), (0x321E, ["(오후)"]),
   (0x3220, ["(一)", "(二)", "(三)", "(四)", "(五)"]), (0x3225, ["(六)", "(七)", "(八)", "(九)", "(十)"]),
   (0x322A, ["(月)", "(火)", "(水)", "(木)", "(金)"]), (0x322F, ["(土)", "(日)", "(株)", "(有)", "(社)"]),
   (0x3234, ["(名)", "(特)", "(財)", "(祝)", "(労)"]), (0x3239, ["(代)", "(呼)", "(学)", "(監)", "(企)"]),
   (0x323E, ["(資)", "(協)", "(祭)", "(休)", "(自)"]), (0x3243, ["(至)"]),
   (0x3250, ["PTE", "21", "22", "23", "24"]), (0x3255, ["25", "26", "27", "28", "29"]),
   (0x325A, ["30", "31", "32", "33", "34"]), (0x325F, ["35"]),
   (0x326E, ["가", "나", "다", "라", "마"]), (0x3273, ["바", "사", "아", "자", "차"]),
   (0x3278, ["카", "타", "파", "하", "참고"]), (0x327D, ["주의", "우"]),
   (0x32B1, ["36", "37", "38", "39", "40"]), (0x32B6, ["41", "42", "43", "44", "45"]),
   (0x32BB, ["46", "47", "48", "49", "50"]), (0x32C0, ["1月", "2月", "3月", "4月", "5月"]),
   (0x32C5, ["6月", "7月", "8月", "9月", "10月"]), (0x32CA, ["11月", "12月", "Hg", "erg", "eV"]),
   (0x32CF, ["LTD"]), (0x32FF, ["令和", "アパート", "アルファ", "アンペア", "アール"]),
   (0x3304, ["イニング", "インチ", "ウォン", "エスクード", "エーカー"]),
   (0x3309, ["オンス", "オーム", "カイリ", "カラット", "カロリー"]), (0x330E, ["ガロン", "ガンマ", "ギガ", "ギニー", "キュリー"]),
   (0x3313, ["ギルダー", "キロ", "キログラム", "キロメートル", "キロワット"]),
   (0x3318, ["グラム", "グラムトン", "クルゼイロ", "クローネ", "ケース"]),
   (0x331D, ["コルナ", "コーポ", "サイクル", "サンチーム", "シリング"]), (0x3322, ["センチ", "セント", "ダース", "デシ", "ドル"]),
   (0x3327, ["トン", "ナノ", "ノット", "ハイツ", "パーセント"]), (0x332C, ["パーツ", "バーレル", "ピアストル", "ピクル", "ピコ"]),
   (0x3331, ["ビル", "ファラッド", "フィート", "ブッシェル", "フラン"]),
   (0x3336, ["ヘクタール", "ペソ", "ペニヒ", "ヘルツ", "ペンス"]), (0x333B, ["ページ", "ベータ", "ポイント", "ボルト", "ホン"]),
   (0x3340, ["ポンド", "ホール", "ホーン", "マイクロ", "マイル"]), (0x3345, ["マッハ", "マルク", "マンション", "ミクロン", "ミリ"]),
   (0x334A, ["ミリバール", "メガ", "メガトン", "メートル", "ヤード"]), (0x334F, ["ヤール", "ユアン", "リットル", "リラ", "ルピー"]),
   (0x3354, ["ルーブル", "レム", "レントゲン", "ワット", "0点"]), (0x3359, ["1点", "2点", "3点", "4点", "5点"]),
   (0x335E, ["6点", "7点", "8点", "9点", "10点"]), (0x3363, ["11点", "12点", "13点", "14点", "15点"]),
   (0x3368, ["16点", "17点", "18点", "19点", "20点"]), (0x336D, ["21点", "22点", "23点", "24点", "hPa"]),
   (0x3372, ["da", "AU", "bar", "oV", "pc"]), (0x3377, ["dm", "dm²", "dm³", "IU", "平成"]),
   (0x337C, ["昭和", "大正", "明治", "株式会社", "pA"]), (0x3381, ["nA", "μA", "mA", "kA", "KB"]),
   (0x3386, ["MB", "GB", "cal", "kcal", "pF"]), (0x338B, ["nF", "μF", "μg", "mg", "kg"]),
   (0x3390, ["Hz", "kHz", "MHz", "GHz", "THz"]), (0x3395, ["μℓ", "mℓ", "dℓ", "kℓ", "fm"]),
   (0x339A, ["nm", "μm", "mm", "cm", "km"]), (0x339F, ["mm²", "cm²", "m²", "km²", "mm³"]),
   (0x33A4, ["cm³", "m³", "km³", "m∕s", "m∕s²"]), (0x33A9, ["Pa", "kPa", "MPa", "GPa", "rad"]),
   (0x33AE, ["rad∕s", "rad∕s²", "ps", "ns", "μs"]), (0x33B3, ["ms", "pV", "nV", "μV", "mV"]),
   (0x33B8, ["kV", "MV", "pW", "nW", "μW"]), (0x33BD, ["mW", "kW", "MW", "kΩ", "MΩ"]),
   (0x33C2, ["a.m.", "Bq", "cc", "cd", "C∕kg"]), (0x33C7, ["Co.", "dB", "Gy", "ha", "HP"]),
   (0x33CC, ["in", "KK", "KM", "kt", "lm"]), (0x33D1, ["ln", "log", "lx", "mb", "mil"]),
   (0x33D6, ["mol", "PH", "p.m.", "PPM", "PR"]), (0x33DB, ["sr", "Sv", "Wb", "V∕m", "A∕m"]),
   (0x33E0, ["1日", "2日", "3日", "4日", "5日"]), (0x33E5, ["6日", "7日", "8日", "9日", "10日"]),
   (0x33EA, ["11日", "12日", "13日", "14日", "15日"]), (0x33EF, ["16日", "17日", "18日", "19日", "20日"]),
   (0x33F4, ["21日", "22日", "23日", "24日", "25日"]), (0x33F9, ["26日", "27日", "28日", "29日", "30日"]),
   (0x33FE, ["31日", "gal"]), (0xFB00, ["ff", "fi", "fl", "ffi", "ffl"]), (0xFB05, ["ſt", "st"]),
   (0xFB13, ["մն", "մե", "մի", "վն", "մխ"]), (0xFB4F, ["אל"]),
   (0xFBEA, ["ئا", "ئا", "ئە", "ئە", "ئو"]), (0xFBEF, ["ئو", "ئۇ", "ئۇ", "ئۆ", "ئۆ"]),
   (0xFBF4, ["ئۈ", "ئۈ", "ئې", "ئې", "ئې"]), (0xFBF9, ["ئى", "ئى", "ئى"]),
   (0xFC00, ["ئج", "ئح", "ئم", "ئى", "ئي"]), (0xFC05, ["بج", "بح", "بخ", "بم", "بى"]),
   (0xFC0A, ["بي", "تج", "تح", "تخ", "تم"]), (0xFC0F, ["تى", "تي", "ثج", "ثم", "ثى"]),
   (0xFC14, ["ثي", "جح", "جم", "حج", "حم"]), (0xFC19, ["خج", "خح", "خم", "سج", "سح"]),
   (0xFC1E, ["سخ", "سم", "صح", "صم", "ضج"]), (0xFC23, ["ضح", "ضخ", "ضم", "طح", "طم"]),
   (0xFC28, ["ظم", "عج", "عم", "غج", "غم"]), (0xFC2D, ["فج", "فح", "فخ", "فم", "فى"]),
   (0xFC32, ["في", "قح", "قم", "قى", "قي"]), (0xFC37, ["كا", "كج", "كح", "كخ", "كل"]),
   (0xFC3C, ["كم", "كى", "كي", "لج", "لح"]), (0xFC41, ["لخ", "لم", "لى", "لي", "مج"]),
   (0xFC46, ["مح", "مخ", "مم", "مى", "مي"]), (0xFC4B, ["نج", "نح", "نخ", "نم", "نى"]),
   (0xFC50, ["ني", "هج", "هم", "هى", "هي"]), (0xFC55, ["يج", "يح", "يخ", "يم", "يى"]),
   (0xFC5A, ["يي", "ذ\u0670", "ر\u0670", "ى\u0670", " \u064c\u0651"]),
   (0xFC5F, [" \u064d\u0651", " \u064e\u0651", " \u064f\u0651", " \u0650\u0651", " \u0651\u0670"]),
   (0xFC64, ["ئر", "ئز", "ئم", "ئن", "ئى"]), (0xFC69, ["ئي", "بر", "بز", "بم", "بن"]),
   (0xFC6E, ["بى", "بي", "تر", "تز", "تم"]), (0xFC73, ["تن", "تى", "تي", "ثر", "ثز"]),
   (0xFC78, ["ثم", "ثن", "ثى", "ثي", "فى"]), (0xFC7D, ["في", "قى", "قي", "كا", "كل"]),
   (0xFC82, ["كم", "كى", "كي", "لم", "لى"]), (0xFC87, ["لي", "ما", "مم", "نر", "نز"]),
   (0xFC8C, ["نم", "نن", "نى", "ني", "ى\u0670"]), (0xFC91, ["ير", "يز", "يم", "ين", "يى"]),
   (0xFC96, ["يي", "ئج", "ئح", "ئخ", "ئم"]), (0xFC9B, ["ئه", "بج", "بح", "بخ", "بم"]),
   (0xFCA0, ["به", "تج", "تح", "تخ", "تم"]), (0xFCA5, ["ته", "ثم", "جح", "جم", "حج"]),
   (0xFCAA, ["حم", "خج", "خم", "سج", "سح"]), (0xFCAF, ["سخ", "سم", "صح", "صخ", "صم"]),
   (0xFCB4, ["ضج", "ضح", "ضخ", "ضم", "طح"]), (0xFCB9, ["ظم", "عج", "عم", "غج", "غم"]),
   (0xFCBE, ["فج", "فح", "فخ", "فم", "قح"]), (0xFCC3, ["قم", "كج", "كح", "كخ", "كل"]),
   (0xFCC8, ["كم", "لج", "لح", "لخ", "لم"]), (0xFCCD, ["له", "مج", "مح", "مخ", "مم"]),
   (0xFCD2, ["نج", "نح", "نخ", "نم", "نه"]), (0xFCD7, ["هج", "هم", "ه\u0670", "يج", "يح"]),
   (0xFCDC, ["يخ", "يم", "يه", "ئم", "ئه"]), (0xFCE1, ["بم", "به", "تم", "ته", "ثم"]),
   (0xFCE6, ["ثه", "سم", "سه", "شم", "شه"]), (0xFCEB, ["كل", "كم", "لم", "نم", "نه"]),
   (0xFCF0, ["يم", "يه", "ـ\u064e\u0651", "ـ\u064f\u0651", "ـ\u0650\u0651"]),
   (0xFCF5, ["طى", "طي", "عى", "عي", "غى"]), (0xFCFA, ["غي", "سى", "سي", "شى", "شي"]),
   (0xFCFF, ["حى", "حي", "جى", "جي", "خى"]), (0xFD04, ["خي", "صى", "صي", "ضى", "ضي"]),
   (0xFD09, ["شج", "شح", "شخ", "شم", "شر"]), (0xFD0E, ["سر", "صر", "ضر", "طى", "طي"]),
   (0xFD13, ["عى", "عي", "غى", "غي", "سى"]), (0xFD18, ["سي", "شى", "شي", "حى", "حي"]),
   (0xFD1D, ["جى", "جي", "خى", "خي", "صى"]), (0xFD22, ["صي", "ضى", "ضي", "شج", "شح"]),
   (0xFD27, ["شخ", "شم", "شر", "سر", "صر"]), (0xFD2C, ["ضر", "شج", "شح", "شخ", "شم"]),
   (0xFD31, ["سه", "شه", "طم", "سج", "سح"]), (0xFD36, ["سخ", "شج", "شح", "شخ", "طم"]),
   (0xFD3B, ["ظم", "ا\u064b", "ا\u064b"]), (0xFD50, ["تجم", "تحج", "تحج", "تحم", "تخم"]),
   (0xFD55, ["تمج", "تمح", "تمخ", "جمح", "جمح"]), (0xFD5A, ["حمي", "حمى", "سحج", "سجح", "سجى"]),
   (0xFD5F, ["سمح", "سمح", "سمج", "سمم", "سمم"]), (0xFD64, ["صحح", "صحح", "صمم", "شحم", "شحم"]),
   (0xFD69, ["شجي", "شمخ", "شمخ", "شمم", "شمم"]), (0xFD6E, ["ضحى", "ضخم", "ضخم", "طمح", "طمح"]),
   (0xFD73, ["طمم", "طمي", "عجم", "عمم", "عمم"]), (0xFD78, ["عمى", "غمم", "غمي", "غمى", "فخم"]),
   (0xFD7D, ["فخم", "قمح", "قمم", "لحم", "لحي"]), (0xFD82, ["لحى", "لجج", "لجج", "لخم", "لخم"]),
   (0xFD87, ["لمح", "لمح", "محج", "محم", "محي"]), (0xFD8C, ["مجح", "مجم", "مخج", "مخم"]),
   (0xFD92, ["مجخ", "همج", "همم", "نحم", "نحى"]), (0xFD97, ["نجم", "نجم", "نجى", "نمي", "نمى"]),
   (0xFD9C, ["يمم", "يمم", "بخي", "تجي", "تجى"]), (0xFDA1, ["تخي", "تخى", "تمي", "تمى", "جمي"]),
   (0xFDA6, ["جحى", "جمى", "سخى", "صحي", "شحي"]), (0xFDAB, ["ضحي", "لجي", "لمي", "يحي", "يجي"]),
   (0xFDB0, ["يمي", "ممي", "قمي", "نحي", "قمح"]), (0xFDB5, ["لحم", "عمي", "كمي", "نجح", "مخي"]),
   (0xFDBA, ["لجم", "كمم", "لجم", "نجح", "جحي"]), (0xFDBF, ["حجي", "مجي", "فمي", "بحي", "كمم"]),
   (0xFDC4, ["عجم", "صمم", "سخي", "نجي"]), (0xFDF0, ["صلے", "قلے", "الله", "اكبر", "محمد"]),
   (0xFDF5, ["صلعم", "رسول", "عليه", "وسلم", "صلى"]),
   (0xFDFA, ["صلى الله عليه وسلم", "جل جلاله", "ریال"]),
   (0xFE70, [" \u064b", "ـ\u064b", " \u064c"]), (0xFE74, [" \u064d"]),
   (0xFE76, [" \u064e", "ـ\u064e", " \u064f", "ـ\u064f", " \u0650"]),
   (0xFE7B, ["ـ\u0650", " \u0651", "ـ\u0651", " \u0652", "ـ\u0652"]),
   (0xFEF5, ["لآ", "لآ", "لأ", "لأ", "لإ"]), (0xFEFA, ["لإ", "لا", "لا"]),
   (0x1F100, ["0.", "0,", "1,", "2,", "3,"]), (0x1F105, ["4,", "5,", "6,", "7,", "8,"]),
   (0x1F10A, ["9,"]), (0x1F110, ["(A)", "(B)", "(C)", "(D)", "(E)"]),
   (0x1F115, ["(F)", "(G)", "(H)", "(I)", "(J)"]), (0x1F11A, ["(K)", "(L)", "(M)", "(N)", "(O)"]),
   (0x1F11F, ["(P)", "(Q)", "(R)", "(S)", "(T)"]), (0x1F124, ["(U)", "(V)", "(W)", "(X)", "(Y)"]),
   (0x1F129, ["(Z)", "〔S〕"]), (0x1F12D, ["CD", "WZ"]), (0x1F14A, ["HV", "MV", "SD", "SS", "PPV"]),
   (0x1F14F, ["WC"]), (0x1F16A, ["MC", "MD", "MR"]), (0x1F190, ["DJ"]), (0x1F200, ["ほか", "ココ"]),
   (0x1F240, ["〔本〕", "〔三〕", "〔二〕", "〔安〕", "〔点〕"]), (0x1F245, ["〔打〕", "〔盗〕", "〔勝〕", "〔敗〕"])]

end MarkupQuery.Text.Normal
