import PodPlacement.Host.Marks

/-!
# Composed texts

The composed form of a text of allowed characters (Unicode 14): marks are in the order of their
ranks, and a letter and a mark that are the same as one letter are written as that letter.
-/

namespace PodPlacement.Host

/-- Marks, each with letters, and what it makes of each of them. -/
def compositions : List (Nat × String × String) := [
  (0x300, "aeinouwyâêôüăēōơưαεηιουωϊϋеиἀἁἐἑἠἡἰἱὀὁὐὑὠὡ",
    "àèìǹòùẁỳầềồǜằḕṑờừὰὲὴὶὸὺὼῒῢѐѝἂἃἒἓἢἣἲἳὂὃὒὓὢὣ"),
  (0x301, "acegiklmnoprsuwyzâåæçêïôõøüăēōũơưαεηιουωϊϋгкἀἁἐἑἠἡἰἱὀὁὐὑὠὡ",
    "áćéǵíḱĺḿńóṕŕśúẃýźấǻǽḉếḯốṍǿǘắḗṓṹớứάέήίόύώΐΰѓќἄἅἔἕἤἥἴἵὄὅὔὕὤὥ"),
  (0x302, "aceghijosuwyzạẹọ", "âĉêĝĥîĵôŝûŵŷẑậệộ"), (0x303, "aeinouvyâêôăơư", "ãẽĩñõũṽỹẫễỗẵỡữ"),
  (0x304, "aegiouyäæõöüǫȧȯαιυиуḷṛ", "āēḡīōūȳǟǣȭȫǖǭǡȱᾱῑῡӣӯḹṝ"),
  (0x306, "aegiouȩαιυаежиуạ", "ăĕğĭŏŭḝᾰῐῠӑӗӂйўặ"),
  (0x307, "abcdefghmnoprstwxyzśšṣ", "ȧḃċḋėḟġḣṁṅȯṗṙṡṫẇẋẏżṥṧṩ"),
  (0x308, "aehiotuwxyõūιυаежзиоучыэіәө", "äëḧïöẗüẅẍÿṏṻϊϋӓёӝӟӥӧӱӵӹӭїӛӫ"),
  (0x309, "aeiouyâêôăơư", "ảẻỉỏủỷẩểổẳởử"), (0x30A, "auwy", "åůẘẙ"), (0x30B, "ouу", "őűӳ"),
  (0x30C, "acdeghijklnorstuzüʒ", "ǎčďěǧȟǐǰǩľňǒřšťǔžǚǯ"), (0x30F, "aeioruѵ", "ȁȅȉȍȑȕѷ"),
  (0x311, "aeioru", "ȃȇȋȏȓȗ"), (0x313, "αεηιορυω", "ἀἐἠἰὀῤὐὠ"), (0x314, "αεηιορυω", "ἁἑἡἱὁῥὑὡ"),
  (0x31B, "ou", "ơư"), (0x323, "abdehiklmnorstuvwyzơư", "ạḅḍẹḥịḳḷṃṇọṛṣṭụṿẉỵẓợự"), (0x324, "u", "ṳ"),
  (0x325, "a", "ḁ"), (0x326, "st", "șț"), (0x327, "cdeghklnrst", "çḑȩģḩķļņŗşţ"),
  (0x328, "aeiou", "ąęįǫų"), (0x32D, "delntu", "ḓḙḽṋṱṷ"), (0x32E, "h", "ḫ"), (0x330, "eiu", "ḛḭṵ"),
  (0x331, "bdhklnrtz", "ḇḏẖḵḻṉṟṯẕ"), (0x342, "αηιυωϊϋἀἁἠἡἰἱὐὑὠὡ", "ᾶῆῖῦῶῗῧἆἇἦἧἶἷὖὗὦὧ"),
  (0x653, "ا", "آ"), (0x654, "اويہےە", "أؤئۂۓۀ"), (0x655, "ا", "إ"), (0x93C, "नरळ", "ऩऱऴ"),
  (0x9BE, "ে", "ো"), (0x9D7, "ে", "ৌ"), (0xB3E, "େ", "ୋ"), (0xB56, "େ", "ୈ"), (0xB57, "େ", "ୌ"),
  (0xBBE, "ெே", "ொோ"), (0xBD7, "ஒெ", "ஔௌ"), (0xC56, "ె", "ై"), (0xCC2, "ೆ", "ೊ"),
  (0xCD5, "ಿೆೊ", "ೀೇೋ"), (0xCD6, "ೆ", "ೈ"), (0xD3E, "െേ", "ൊോ"), (0xD57, "െ", "ൌ"),
  (0xDCA, "ෙො", "ේෝ"), (0xDCF, "ෙ", "ො"), (0xDDF, "ෙ", "ෞ"), (0x102E, "ဥ", "ဦ"),
  (0x1B35, "ᬅᬇᬉᬋᬍᬑᬺᬼᬾᬿᭂ", "ᬆᬈᬊᬌᬎᬒᬻᬽᭀᭁᭃ"),
  (0x3099, "うかきくけこさしすせそたちつてとはひふへほゝウカキクケコサシスセソタチツテトハヒフヘホワヰヱヲヽ",
    "ゔがぎぐげござじずぜぞだぢづでどばびぶべぼゞヴガギグゲゴザジズゼゾダヂヅデドバビブベボヷヸヹヺヾ"),
  (0x309A, "はひふへほハヒフヘホ", "ぱぴぷぺぽパピプペポ"), (0x110BA, "𑂙𑂛𑂥", "𑂚𑂜𑂫"), (0x11127, "𑄱𑄲", "𑄮𑄯"),
  (0x1133E, "𑍇", "𑍋"), (0x11357, "𑍇", "𑍌"), (0x114B0, "𑒹", "𑒼"), (0x114BA, "𑒹", "𑒻"),
  (0x114BD, "𑒹", "𑒾"), (0x115AF, "𑖸𑖹", "𑖺𑖻"), (0x11930, "𑤵", "𑤸")]

/-- The letters of each composition: the mark, the letter that it is put on, and what it
makes. -/
def composed : List (Char × Char × Char) :=
  compositions.flatMap fun (mark, letters, results) =>
    (letters.toList.zip results.toList).map fun (letter, result) =>
      (Char.ofNat mark, letter, result)

/-- The one character that a character and a mark on it are, if there is one. -/
def compose? (c mark : Char) : Option Char :=
  (composed.find? fun (m, letter, _) => m == mark && letter == c).map (·.2.2)

/-- The character and the mark on it that a character is, if there are two. -/
def split? (c : Char) : Option (Char × Char) :=
  (composed.find? fun (_, _, result) => result == c).map fun (mark, letter, _) => (letter, mark)

/-! ## Apart -/

/-- As many marks at most are in one character. -/
def markLimit : Nat := 2

/-- A character with up to so many marks taken off it. -/
def takeApart : Nat → Char → List Char
  | 0, c => [c]
  | n + 1, c =>
    match split? c with
    | some (letter, mark) => takeApart n letter ++ [mark]
    | none => [c]

/-! ## In order -/

/-- Puts a character in front of others.  If it is a mark, those of lower rank go before it. -/
def insertByRank (c : Char) : List Char → List Char
  | [] => [c]
  | d :: ds => if 0 < rank d ∧ rank d < rank c then d :: insertByRank c ds else c :: d :: ds

/-- A text with its marks in the order of their ranks. -/
def inOrder (cs : List Char) : List Char := cs.foldr insertByRank []

/-! ## Together -/

/-- A text with its letters and marks put together, after a letter and the marks that stay on
it, which are in reverse.  A mark goes past marks of lower rank only. -/
def putTogether (letter : Option Char) (marks : List Char) : List Char → List Char
  | [] => letter.toList ++ marks.reverse
  | c :: cs =>
    let isFree := marks.head?.all fun m => rank m < rank c
    match if isFree then letter.bind (compose? · c) else none with
    | some together => putTogether (some together) marks cs
    | none =>
      if rank c = 0 then letter.toList ++ marks.reverse ++ putTogether (some c) [] cs
      else putTogether letter (c :: marks) cs

def isComposed (cs : List Char) : Bool :=
  putTogether none [] (inOrder (cs.flatMap (takeApart markLimit))) == cs

end PodPlacement.Host
