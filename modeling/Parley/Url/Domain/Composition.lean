import Parley.Url.Domain.Marks

/-!
# Composed characters

A letter and the mark after it have one character of their own where this table holds one, and so
have the letters of a Korean syllable. A label is brought into composed form: characters are taken
apart, the marks after each letter are put into the order of their classes, and letters and marks
are joined again.
-/

namespace Parley.Url

/-- Characters that a mark joins, and what they become, place by place. -/
structure Joining where
  mark : Nat
  letters : String
  joined : String

/-- The characters that are joined with a mark or vowel sign. -/
def joinings : List Joining := [
  ⟨0x300, "aeiouünеиēōwâăêôơưyἀἁἐἑἠἡἰἱὀὁὐὑὠὡαεηιουω",
    "àèìòùǜǹѐѝḕṑẁầằềồờừỳἂἃἒἓἢἣἲἳὂὃὒὓὢὣὰὲὴὶὸὺὼ"⟩,
  ⟨0x300, "ϊϋ", "ῒῢ"⟩,
  ⟨0x301, "aeiouyclnrszügåæøϊαεηιϋουωгкçēïkmõōpũwâă",
    "áéíóúýćĺńŕśźǘǵǻǽǿΐάέήίΰόύώѓќḉḗḯḱḿṍṓṕṹẃấắ"⟩,
  ⟨0x301, "êôơưἀἁἐἑἠἡἰἱὀὁὐὑὠὡ", "ếốớứἄἅἔἕἤἥἴἵὄὅὔὕὤὥ"⟩,
  ⟨0x302, "aeioucghjswyzạẹọ", "âêîôûĉĝĥĵŝŵŷẑậệộ"⟩, ⟨0x303, "anoiuvâăeêôơưy", "ãñõĩũṽẫẵẽễỗỡữỹ"⟩,
  ⟨0x304, "aeiouüäȧæǫöõȯyиуgḷṛαιυ",
    "āēīōūǖǟǡǣǭȫȭȱȳӣӯḡḹṝᾱῑῡ"⟩,
  ⟨0x306, "aegiouиужаеȩạαιυ", "ăĕğĭŏŭйўӂӑӗḝặᾰῐῠ"⟩,
  ⟨0x307, "cegzaobdfhmnprsśšṣtwxy𐗒𐗚",
    "ċėġżȧȯḃḋḟḣṁṅṗṙṡṥṧṩṫẇẋẏ𐗉𐗤"⟩,
  ⟨0x308, "aeiouyιυеіаәжзиоөэучыhõūwxt",
    "äëïöüÿϊϋёїӓӛӝӟӥӧӫӭӱӵӹḧṏṻẅẍẗ"⟩,
  ⟨0x309, "aâăeêioôơuưy", "ảẩẳẻểỉỏổởủửỷ"⟩, ⟨0x30A, "auwy", "åůẘẙ"⟩, ⟨0x30B, "ouу", "őűӳ"⟩,
  ⟨0x30C, "cdelnrstzaiouügkʒjh", "čďěľňřšťžǎǐǒǔǚǧǩǯǰȟ"⟩, ⟨0x30F, "aeioruѵ", "ȁȅȉȍȑȕѷ"⟩,
  ⟨0x311, "aeioru", "ȃȇȋȏȓȗ"⟩, ⟨0x313, "αεηιουωρ", "ἀἐἠἰὀὐὠῤ"⟩,
  ⟨0x314, "αεηιουωρ", "ἁἑἡἱὁὑὡῥ"⟩, ⟨0x31B, "ou", "ơư"⟩,
  ⟨0x323, "bdhklmnrstvwzaeioơuưy",
    "ḅḍḥḳḷṃṇṛṣṭṿẉẓạẹịọợụựỵ"⟩,
  ⟨0x324, "u", "ṳ"⟩, ⟨0x325, "a", "ḁ"⟩, ⟨0x326, "st", "șț"⟩,
  ⟨0x327, "cgklnrstedh", "çģķļņŗşţȩḑḩ"⟩, ⟨0x328, "aeiuo", "ąęįųǫ"⟩,
  ⟨0x32D, "delntu", "ḓḙḽṋṱṷ"⟩, ⟨0x32E, "h", "ḫ"⟩, ⟨0x330, "eiu", "ḛḭṵ"⟩,
  ⟨0x331, "bdklnrtzh", "ḇḏḵḻṉṟṯẕẖ"⟩,
  ⟨0x338, "←→↔⇐⇔⇒∃∈∋∣∥∼≃≅≈=≡≍<>≤≥≲≳≶≷≺≻⊂⊃⊆⊇⊢⊨⊩⊫≼≽⊑⊒",
    "↚↛↮⇍⇎⇏∄∉∌∤∦≁≄≇≉≠≢≭≮≯≰≱≴≵≸≹⊀⊁⊄⊅⊈⊉⊬⊭⊮⊯⋠⋡⋢⋣"⟩,
  ⟨0x338, "⊲⊳⊴⊵", "⋪⋫⋬⋭"⟩, ⟨0x342, "ἀἁἠἡἰἱὐὑὠὡαηιϊυϋω", "ἆἇἦἧἶἷὖὗὦὧᾶῆῖῗῦῧῶ"⟩,
  ⟨0x653, "ا", "آ"⟩, ⟨0x654, "اويەہے", "أؤئۀۂۓ"⟩, ⟨0x655, "ا", "إ"⟩, ⟨0x93C, "नरळ", "ऩऱऴ"⟩,
  ⟨0x9BE, "ে", "ো"⟩, ⟨0x9D7, "ে", "ৌ"⟩, ⟨0xB3E, "େ", "ୋ"⟩, ⟨0xB56, "େ", "ୈ"⟩,
  ⟨0xB57, "େ", "ୌ"⟩, ⟨0xBBE, "ெே", "ொோ"⟩, ⟨0xBD7, "ஒெ", "ஔௌ"⟩, ⟨0xC56, "ె", "ై"⟩,
  ⟨0xCC2, "ೆ", "ೊ"⟩, ⟨0xCD5, "ಿೆೊ", "ೀೇೋ"⟩, ⟨0xCD6, "ೆ", "ೈ"⟩, ⟨0xD3E, "െേ", "ൊോ"⟩,
  ⟨0xD57, "െ", "ൌ"⟩, ⟨0xDCA, "ෙො", "ේෝ"⟩, ⟨0xDCF, "ෙ", "ො"⟩, ⟨0xDDF, "ෙ", "ෞ"⟩,
  ⟨0x102E, "ဥ", "ဦ"⟩, ⟨0x1B35, "ᬅᬇᬉᬋᬍᬑᬺᬼᬾᬿᭂ", "ᬆᬈᬊᬌᬎᬒᬻᬽᭀᭁᭃ"⟩,
  ⟨0x3099, "かきくけこさしすせそたちつてとはひふへほうゝカキクケコサシスセソタチツテトハヒフ",
    "がぎぐげござじずぜぞだぢづでどばびぶべぼゔゞガギグゲゴザジズゼゾダヂヅデドバビブ"⟩,
  ⟨0x3099, "ヘホウワヰヱヲヽ", "ベボヴヷヸヹヺヾ"⟩, ⟨0x309A, "はひふへほハヒフヘホ", "ぱぴぷぺぽパピプペポ"⟩,
  ⟨0x110BA, "𑂙𑂛𑂥", "𑂚𑂜𑂫"⟩, ⟨0x11127, "𑄱𑄲", "𑄮𑄯"⟩, ⟨0x1133E, "𑍇", "𑍋"⟩, ⟨0x11357, "𑍇", "𑍌"⟩,
  ⟨0x113B8, "𑏂", "𑏇"⟩, ⟨0x113BB, "𑎄", "𑎅"⟩, ⟨0x113C2, "𑎎", "𑎎𑏅"⟩, ⟨0x113C9, "𑎂𑎐𑏂", "𑎃𑎑𑏈"⟩,
  ⟨0x114B0, "𑒹", "𑒼"⟩, ⟨0x114BA, "𑒹", "𑒻"⟩, ⟨0x114BD, "𑒹", "𑒾"⟩, ⟨0x115AF, "𑖸𑖹", "𑖺𑖻"⟩,
  ⟨0x11930, "𑤵", "𑤸"⟩, ⟨0x1611E, "𖄞", "𖄡"⟩, ⟨0x1611F, "𖄢𖄡𖄢", "𖄣𖄤𖄦𖄧"⟩, ⟨0x16120, "𖄡𖄞", "𖄥𖄨"⟩,
  ⟨0x16129, "𖄞", "𖄢"⟩, ⟨0x16D67, "𖵧𖵣𖵩", "𖵨𖵩𖵪"⟩]

namespace Composition

/-! ## Korean syllables -/

/-- The number of second letters and of third ones, where none is one of them. -/
def vowelCount : Nat := 21

def codaCount : Nat := 28

/-- The place of a character among those from `first` on, if it is below `count`. -/
def place? (first count : Nat) (character : Char) : Option Nat :=
  if first ≤ character.toNat ∧ character.toNat < first + count then some (character.toNat - first)
  else none

/-- The syllable of its first and second letter, or of a syllable without third letter and that
letter. -/
def joinSyllable? (letter next : Char) : Option Char :=
  match place? 0x1100 19 letter, place? 0x1161 vowelCount next with
  | some onset, some vowel => some (Char.ofNat (0xAC00 + (onset * vowelCount + vowel) * codaCount))
  | _, _ =>
      match place? 0xAC00 (19 * vowelCount * codaCount) letter,
          place? 0x11A8 (codaCount - 1) next with
      | some syllable, some coda =>
          if syllable % codaCount = 0 then some (Char.ofNat (letter.toNat + coda + 1)) else none
      | _, _ => none

/-- The letters of a syllable without its last one, and its last letter. -/
def splitSyllable? (character : Char) : Option (Char × Char) :=
  (place? 0xAC00 (19 * vowelCount * codaCount) character).map fun syllable =>
    let coda := syllable % codaCount
    let vowel := syllable / codaCount % vowelCount
    if coda = 0 then
      (Char.ofNat (0x1100 + syllable / (vowelCount * codaCount)), Char.ofNat (0x1161 + vowel))
    else (Char.ofNat (character.toNat - coda), Char.ofNat (0x11A7 + coda))

/-! ## Joining and taking apart -/

/-- What a character and the one after it are joined to. -/
def join? (letter next : Char) : Option Char :=
  (joinSyllable? letter next).or <| joinings.findSome? fun joining =>
    if joining.mark = next.toNat then
      ((joining.letters.toList.zip joining.joined.toList).find? (·.1 == letter)).map (·.2)
    else none

/-- The two characters that a character is joined from. -/
def split? (character : Char) : Option (Char × Char) :=
  (splitSyllable? character).or <| joinings.findSome? fun joining =>
    ((joining.letters.toList.zip joining.joined.toList).find? (·.2 == character)).map
      fun pair => (pair.1, Char.ofNat joining.mark)

/-- The characters that a character is joined from in at most so many steps. -/
def split : Nat → Char → List Char
  | 0, character => [character]
  | fuel + 1, character =>
      if character.toNat < 0xC0 then [character]
      else
        match split? character with
        | some (letter, next) => split fuel letter ++ [next]
        | none => [character]

/-- Puts a character before a text, behind the marks at its start whose classes are smaller. -/
def insertOrdered (character : Char) : List Char → List Char
  | [] => [character]
  | next :: rest =>
      if 0 < markClass next ∧ markClass next < markClass character then
        next :: insertOrdered character rest
      else character :: next :: rest

/-- The text with the marks after each letter in the order of their classes. -/
def order (text : List Char) : List Char := text.foldr insertOrdered []

/-- What is composed so far: the text before the last letter, in reverse, that letter, and the
marks after it that were not joined to it, in reverse. -/
structure Draft where
  before : List Char
  letter : Option Char
  marks : List Char

def Draft.reversed (draft : Draft) : List Char :=
  draft.marks ++ (draft.letter.toList ++ draft.before)

/-- Takes one more character. It is joined to the last letter if nothing stands between, or only
marks of smaller classes. -/
def Draft.add (draft : Draft) (character : Char) : Draft :=
  let isNear := draft.marks.head?.all fun last => markClass last < markClass character
  match if isNear then draft.letter.bind (join? · character) else none with
  | some joined => { draft with letter := some joined }
  | none =>
      if markClass character = 0 then
        { before := draft.reversed, letter := some character, marks := [] }
      else { draft with marks := character :: draft.marks }

/-- The composed form of a text. Four steps take every character apart. -/
def compose (text : List Char) : List Char :=
  ((order (text.flatMap (split 4))).foldl Draft.add ⟨[], none, []⟩).reversed.reverse

end Composition

end Parley.Url
