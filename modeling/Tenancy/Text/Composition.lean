import Tenancy.Text.Mark

/-! Composed text: marks stand in the order of their classes, and a character is joined with the
marks after it wherever a single character stands for both. Equal text that was typed in different
ways becomes the same text. -/
namespace Tenancy

/-- The second of two characters that are joined, and the first ones, each before the character that
stands for both. -/
def compositionRows : List (Nat × String) := [
  (0x300, "AÀEÈIÌNǸOÒUÙWẀYỲaàeèiìnǹoòuùwẁyỳ¨῭ÂẦÊỀÔỒÜǛâầêềôồüǜ"),
  (0x300, "ĂẰăằĒḔēḕŌṐōṑƠỜơờƯỪưừΑᾺΕῈΗῊΙῚΟῸΥῪΩῺαὰεὲ"),
  (0x300, "ηὴιὶοὸυὺωὼϊῒϋῢЕЀИЍеѐиѝἀἂἁἃἈἊἉἋἐἒἑἓἘἚ"),
  (0x300, "ἙἛἠἢἡἣἨἪἩἫἰἲἱἳἸἺἹἻὀὂὁὃὈὊὉὋὐὒὑὓὙὛ"),
  (0x300, "ὠὢὡὣὨὪὩὫ᾿῍῾῝"),
  (0x301, "AÁCĆEÉGǴIÍKḰLĹMḾNŃOÓPṔRŔSŚUÚWẂYÝZŹaácćeégǵiíkḱlĺmḿnńoópṕrŕsś"),
  (0x301, "uúwẃyýzź¨΅ÂẤÅǺÆǼÇḈÊẾÏḮÔỐÕṌØǾÜǗâấåǻæǽçḉêếïḯôố"),
  (0x301, "õṍøǿüǘĂẮăắĒḖēḗŌṒōṓŨṸũṹƠỚơớƯỨưứΑΆΕΈΗΉΙΊΟΌΥΎ"),
  (0x301, "ΩΏαάεέηήιίοόυύωώϊΐϋΰϒϓГЃКЌгѓкќἀἄἁἅἈἌἉἍἐἔἑἕ"),
  (0x301, "ἘἜἙἝἠἤἡἥἨἬἩἭἰἴἱἵἸἼἹἽὀὄὁὅὈὌὉὍὐὔὑὕ"),
  (0x301, "ὙὝὠὤὡὥὨὬὩὭ᾿῎῾῞"),
  (0x302, "AÂCĈEÊGĜHĤIÎJĴOÔSŜUÛWŴYŶZẐaâcĉeêgĝhĥiîjĵoôsŝuûwŵyŷzẑẠẬạậẸỆ"),
  (0x302, "ẹệỌỘọộ"),
  (0x303, "AÃEẼIĨNÑOÕUŨVṼYỸaãeẽiĩnñoõuũvṽyỹÂẪÊỄÔỖâẫêễôỗĂẴăẵ"),
  (0x303, "ƠỠơỡƯỮưữ"),
  (0x304, "AĀEĒGḠIĪOŌUŪYȲaāeēgḡiīoōuūyȳÄǞÆǢÕȬÖȪÜǕäǟæǣõȭöȫüǖǪǬǫǭȦǠ"),
  (0x304, "ȧǡȮȰȯȱΑᾹΙῙΥῩαᾱιῑυῡИӢУӮиӣуӯḶḸḷḹṚṜṛṝ"),
  (0x306, "AĂEĔGĞIĬOŎUŬaăeĕgğiĭoŏuŭȨḜȩḝΑᾸΙῘΥῨαᾰιῐυῠАӐЕӖЖӁИЙУЎ"),
  (0x306, "аӑеӗжӂийуўẠẶạặ"),
  (0x307, "AȦBḂCĊDḊEĖFḞGĠHḢIİMṀNṄOȮPṖRṘSṠTṪWẆXẊYẎZŻaȧbḃcċdḋeėfḟgġ"),
  (0x307, "hḣmṁnṅoȯpṗrṙsṡtṫwẇxẋyẏzżŚṤśṥŠṦšṧſẛṢṨṣṩ𐗒𐗉"),
  (0x307, "𐗚𐗤"),
  (0x308, "AÄEËHḦIÏOÖUÜWẄXẌYŸaäeëhḧiïoötẗuüwẅxẍyÿÕṎõṏŪṺūṻΙΪΥΫιϊ"),
  (0x308, "υϋϒϔІЇАӒЕЁЖӜЗӞИӤОӦУӰЧӴЫӸЭӬаӓеёжӝзӟиӥоӧуӱчӵыӹэӭії"),
  (0x308, "ӘӚәӛӨӪөӫ"),
  (0x309, "AẢEẺIỈOỎUỦYỶaảeẻiỉoỏuủyỷÂẨÊỂÔỔâẩêểôổĂẲăẳƠỞơở"),
  (0x309, "ƯỬưử"), (0x30A, "AÅUŮaåuůwẘyẙ"), (0x30B, "OŐUŰoőuűУӲуӳ"),
  (0x30C, "AǍCČDĎEĚGǦHȞIǏKǨLĽNŇOǑRŘSŠTŤUǓZŽaǎcčdďeěgǧhȟiǐjǰkǩlľnňoǒrřsštťuǔ"),
  (0x30C, "zžÜǙüǚƷǮʒǯ"), (0x30F, "AȀEȄIȈOȌRȐUȔaȁeȅiȉoȍrȑuȕѴѶѵѷ"),
  (0x311, "AȂEȆIȊOȎRȒUȖaȃeȇiȋoȏrȓuȗ"),
  (0x313, "ΑἈΕἘΗἨΙἸΟὈΩὨαἀεἐηἠιἰοὀρῤυὐωὠ"),
  (0x314, "ΑἉΕἙΗἩΙἹΟὉΡῬΥὙΩὩαἁεἑηἡιἱοὁρῥυὑωὡ"),
  (0x31B, "OƠUƯoơuư"),
  (0x323, "AẠBḄDḌEẸHḤIỊKḲLḶMṂNṆOỌRṚSṢTṬUỤVṾWẈYỴZẒaạbḅdḍeẹhḥ"),
  (0x323, "iịkḳlḷmṃnṇoọrṛsṣtṭuụvṿwẉyỵzẓƠỢơợƯỰưự"), (0x324, "UṲuṳ"),
  (0x325, "AḀaḁ"), (0x326, "SȘTȚsștț"),
  (0x327, "CÇDḐEȨGĢHḨKĶLĻNŅRŖSŞTŢcçdḑeȩgģhḩkķlļnņrŗsştţ"),
  (0x328, "AĄEĘIĮOǪUŲaąeęiįoǫuų"), (0x32D, "DḒEḘLḼNṊTṰUṶdḓeḙlḽnṋtṱuṷ"),
  (0x32E, "HḪhḫ"), (0x330, "EḚIḬUṴeḛiḭuṵ"),
  (0x331, "BḆDḎKḴLḺNṈRṞTṮZẔbḇdḏhẖkḵlḻnṉrṟtṯzẕ"),
  (0x338, "<≮=≠>≯←↚→↛↔↮⇐⇍⇒⇏⇔⇎∃∄∈∉∋∌∣∤∥∦∼≁≃≄≅≇"),
  (0x338, "≈≉≍≭≡≢≤≰≥≱≲≴≳≵≶≸≷≹≺⊀≻⊁≼⋠≽⋡⊂⊄⊃⊅⊆⊈"),
  (0x338, "⊇⊉⊑⋢⊒⋣⊢⊬⊨⊭⊩⊮⊫⊯⊲⋪⊳⋫⊴⋬⊵⋭"),
  (0x342, "¨῁αᾶηῆιῖυῦωῶϊῗϋῧἀἆἁἇἈἎἉἏἠἦἡἧἨἮἩἯἰἶ"),
  (0x342, "ἱἷἸἾἹἿὐὖὑὗὙὟὠὦὡὧὨὮὩὯ᾿῏῾῟"),
  (0x345, "ΑᾼΗῌΩῼάᾴήῄαᾳηῃωῳώῴἀᾀἁᾁἂᾂἃᾃἄᾄἅᾅἆᾆἇᾇ"),
  (0x345, "ἈᾈἉᾉἊᾊἋᾋἌᾌἍᾍἎᾎἏᾏἠᾐἡᾑἢᾒἣᾓἤᾔἥᾕἦᾖἧᾗ"),
  (0x345, "ἨᾘἩᾙἪᾚἫᾛἬᾜἭᾝἮᾞἯᾟὠᾠὡᾡὢᾢὣᾣὤᾤὥᾥὦᾦὧᾧ"),
  (0x345, "ὨᾨὩᾩὪᾪὫᾫὬᾬὭᾭὮᾮὯᾯὰᾲὴῂὼῲᾶᾷῆῇῶῷ"),
  (0x653, "اآ"), (0x654, "اأوؤيئہۂےۓەۀ"), (0x655, "اإ"), (0x93C, "नऩरऱळऴ"),
  (0x9BE, "\u09c7\u09cb"), (0x9D7, "\u09c7\u09cc"), (0xB3E, "\u0b47\u0b4b"), (0xB56, "\u0b47\u0b48"),
  (0xB57, "\u0b47\u0b4c"), (0xBBE, "\u0bc6\u0bca\u0bc7\u0bcb"), (0xBD7, "ஒஔ\u0bc6\u0bcc"),
  (0xC56, "\u0c46\u0c48"), (0xCC2, "\u0cc6\u0cca"), (0xCD5, "\u0cbf\u0cc0\u0cc6\u0cc7\u0cca\u0ccb"),
  (0xCD6, "\u0cc6\u0cc8"), (0xD3E, "\u0d46\u0d4a\u0d47\u0d4b"), (0xD57, "\u0d46\u0d4c"),
  (0xDCA, "\u0dd9\u0dda\u0ddc\u0ddd"), (0xDCF, "\u0dd9\u0ddc"), (0xDDF, "\u0dd9\u0dde"), (0x102E, "ဥဦ"),
  (0x1B35, "ᬅᬆᬇᬈᬉᬊᬋᬌᬍᬎᬑᬒ\u1b3a\u1b3b\u1b3c\u1b3d\u1b3e\u1b40\u1b3f\u1b41\u1b42\u1b43"),
  (0x3099, "うゔかがきぎくぐけげこごさざしじすずせぜそぞただちぢつづてでとど"),
  (0x3099, "はばひびふぶへべほぼゝゞウヴカガキギクグケゲコゴサザシジスズセゼ"),
  (0x3099, "ソゾタダチヂツヅテデトドハバヒビフブヘベホボワヷヰヸヱヹヲヺヽヾ"),
  (0x309A, "はぱひぴふぷへぺほぽハパヒピフプヘペホポ"),
  (0x110BA, "𑂙𑂚𑂛𑂜𑂥𑂫"), (0x11127, "𑄱𑄮𑄲𑄯"), (0x1133E, "𑍇𑍋"),
  (0x11357, "𑍇𑍌"), (0x113B8, "𑏅𑎸"), (0x113BB, "𑎄𑎅"), (0x113C2, "𑎋𑎎𑏅𑏂"),
  (0x113C9, "𑎂𑎃𑎐𑎑𑏅𑏉"), (0x114B0, "𑒹𑒼"), (0x114BA, "𑒹𑒻"), (0x114BD, "𑒹𑒾"),
  (0x115AF, "𑖸𑖺𑖹𑖻"), (0x11930, "𑤵𑤸"), (0x1611E, "𖄡𖄞"),
  (0x1611F, "𖄦𖄡𖄦𖄢𖄧𖄩𖄤"), (0x16120, "𖄨𖄡𖄨"), (0x16129, "𖄡𖄩"),
  (0x16D67, "𖵣𖵪𖵨𖵩𖵪")]

/-- Takes a list by twos. -/
def byTwos : List Char → List (Char × Char)
  | a :: b :: rest => (a, b) :: byTwos rest
  | _ => []

/-- Each character that stands for two, before the two. -/
def compositions : List (Char × Char × Char) :=
  compositionRows.flatMap fun (second, text) =>
    (byTwos text.toList).map fun (first, whole) => (whole, first, Char.ofNat second)

/-- The syllable of a leading consonant and a vowel, or of such a syllable and a consonant that
closes it. Syllables are in the order of their leading consonants, then of their vowels, of which
there are 21, then of the 27 that may close them, with the open syllable first. -/
def syllable? (first second : Char) : Option Char :=
  let a := first.toNat
  let b := second.toNat
  if 0x1100 ≤ a ∧ a < 0x1113 ∧ 0x1161 ≤ b ∧ b < 0x1176 then
    some (Char.ofNat (0xAC00 + ((a - 0x1100) * 21 + (b - 0x1161)) * 28))
  else if 0xAC00 ≤ a ∧ a < 0xD7A4 ∧ (a - 0xAC00) % 28 = 0 ∧ 0x11A8 ≤ b ∧ b < 0x11C3 then
    some (Char.ofNat (a + (b - 0x11A7)))
  else none

/-- The character that stands for two. -/
def whole? (first second : Char) : Option Char :=
  match compositions.find? fun (_, parts) => parts = (first, second) with
  | some (whole, _) => some whole
  | none => syllable? first second

/-- Takes a character apart so often. Syllables stay whole, for no mark can come between their
letters. -/
def takenApart : Nat → Char → List Char
  | 0, c => [c]
  | depth + 1, c =>
    match compositions.find? (·.1 = c) with
    | some (_, first, second) => takenApart depth first ++ [second]
    | none => [c]

/-- The most that a character has to be taken apart. -/
def compositionDepth : Nat := 3

/-- Puts a character before text, behind the marks of lower classes there. -/
def insertMark (c : Char) : List Char → List Char
  | [] => [c]
  | d :: rest =>
    if 0 < combiningClass d ∧ combiningClass d < combiningClass c then d :: insertMark c rest
    else c :: d :: rest

/-- The text with its marks in the order of their classes. -/
def inMarkOrder (text : List Char) : List Char := text.foldr insertMark []

/-- Joins a character with those after it. A mark that stays between them blocks others unless they
are of a higher class. -/
def joined (base : Char) (between : List Char) : List Char → List Char
  | [] => base :: between
  | c :: rest =>
    let whole := if between.all (combiningClass · < combiningClass c) then whole? base c else none
    match whole with
    | some whole => joined whole between rest
    | none =>
      if combiningClass c = 0 then base :: between ++ joined c [] rest
      else joined base (between ++ [c]) rest

def composed (text : List Char) : List Char :=
  match inMarkOrder (text.flatMap (takenApart compositionDepth)) with
  | [] => []
  | c :: rest => joined c [] rest

end Tenancy
