import Amanuensis.Text.Combining
/-!
# Composition

A letter with a mark can be written as two characters or, often, as one.
`composed` gives the one way of writing a text in which every such pair is
one character: it takes all characters apart, arranges the marks, and puts
together what fits.
-/


namespace Amanuensis

namespace Text

/-- Characters that make another one together with the same second
character, and what they make, in the same order. -/
structure Pairing where
  second : Nat
  firsts : String
  wholes : String

/-- The pairs that make one character. -/
def pairings : List Pairing :=
  [⟨0x300, "AEINOUWYaeinouwy¨ÂÊÔÜâêôüĂăĒēŌōƠơƯưΑΕΗ", "ÀÈÌǸÒÙẀỲàèìǹòùẁỳ῭ẦỀỒǛầềồǜẰằḔḕṐṑỜờỪừᾺῈῊ"⟩,
   ⟨0x300, "ΙΟΥΩαεηιουωϊϋЕИеиἀἁἈἉἐἑἘἙἠἡἨἩἰἱἸἹὀὁὈὉὐ", "ῚῸῪῺὰὲὴὶὸὺὼῒῢЀЍѐѝἂἃἊἋἒἓἚἛἢἣἪἫἲἳἺἻὂὃὊὋὒ"⟩,
   ⟨0x300, "ὑὙὠὡὨὩ᾿῾", "ὓὛὢὣὪὫ῍῝"⟩,
   ⟨0x301, "ACEGIKLMNOPRSUWYZacegiklmnoprsuwyz¨ÂÅÆ", "ÁĆÉǴÍḰĹḾŃÓṔŔŚÚẂÝŹáćéǵíḱĺḿńóṕŕśúẃýź΅ẤǺǼ"⟩,
   ⟨0x301, "ÇÊÏÔÕØÜâåæçêïôõøüĂăĒēŌōŨũƠơƯưΑΕΗΙΟΥΩαε", "ḈẾḮỐṌǾǗấǻǽḉếḯốṍǿǘẮắḖḗṒṓṸṹỚớỨứΆΈΉΊΌΎΏάέ"⟩,
   ⟨0x301, "ηιουωϊϋϒГКгкἀἁἈἉἐἑἘἙἠἡἨἩἰἱἸἹὀὁὈὉὐὑὙὠὡὨ", "ήίόύώΐΰϓЃЌѓќἄἅἌἍἔἕἜἝἤἥἬἭἴἵἼἽὄὅὌὍὔὕὝὤὥὬ"⟩,
   ⟨0x301, "Ὡ᾿῾", "Ὥ῎῞"⟩,
   ⟨0x302, "ACEGHIJOSUWYZaceghijosuwyzẠạẸẹỌọ", "ÂĈÊĜĤÎĴÔŜÛŴŶẐâĉêĝĥîĵôŝûŵŷẑẬậỆệỘộ"⟩,
   ⟨0x303, "AEINOUVYaeinouvyÂÊÔâêôĂăƠơƯư", "ÃẼĨÑÕŨṼỸãẽĩñõũṽỹẪỄỖẫễỗẴẵỠỡỮữ"⟩,
   ⟨0x304, "AEGIOUYaegiouyÄÆÕÖÜäæõöüǪǫȦȧȮȯΑΙΥαιυИУ", "ĀĒḠĪŌŪȲāēḡīōūȳǞǢȬȪǕǟǣȭȫǖǬǭǠǡȰȱᾹῙῩᾱῑῡӢӮ"⟩,
   ⟨0x304, "иуḶḷṚṛ", "ӣӯḸḹṜṝ"⟩,
   ⟨0x306, "AEGIOUaegiouȨȩΑΙΥαιυАЕЖИУаежиуẠạ", "ĂĔĞĬŎŬăĕğĭŏŭḜḝᾸῘῨᾰῐῠӐӖӁЙЎӑӗӂйўẶặ"⟩,
   ⟨0x307, "ABCDEFGHIMNOPRSTWXYZabcdefghmnoprstwxy", "ȦḂĊḊĖḞĠḢİṀṄȮṖṘṠṪẆẊẎŻȧḃċḋėḟġḣṁṅȯṗṙṡṫẇẋẏ"⟩,
   ⟨0x307, "zŚśŠšſṢṣ𐗒𐗚", "żṤṥṦṧẛṨṩ𐗉𐗤"⟩,
   ⟨0x308, "AEHIOUWXYaehiotuwxyÕõŪūΙΥιυϒІАЕЖЗИОУЧЫ", "ÄËḦÏÖÜẄẌŸäëḧïöẗüẅẍÿṎṏṺṻΪΫϊϋϔЇӒЁӜӞӤӦӰӴӸ"⟩,
   ⟨0x308, "ЭаежзиоучыэіӘәӨө", "ӬӓёӝӟӥӧӱӵӹӭїӚӛӪӫ"⟩,
   ⟨0x309, "AEIOUYaeiouyÂÊÔâêôĂăƠơƯư", "ẢẺỈỎỦỶảẻỉỏủỷẨỂỔẩểổẲẳỞởỬử"⟩, ⟨0x30A, "AUauwy", "ÅŮåůẘẙ"⟩,
   ⟨0x30B, "OUouУу", "ŐŰőűӲӳ"⟩,
   ⟨0x30C, "ACDEGHIKLNORSTUZacdeghijklnorstuzÜüƷʒ", "ǍČĎĚǦȞǏǨĽŇǑŘŠŤǓŽǎčďěǧȟǐǰǩľňǒřšťǔžǙǚǮǯ"⟩,
   ⟨0x30F, "AEIORUaeioruѴѵ", "ȀȄȈȌȐȔȁȅȉȍȑȕѶѷ"⟩, ⟨0x311, "AEIORUaeioru", "ȂȆȊȎȒȖȃȇȋȏȓȗ"⟩,
   ⟨0x313, "ΑΕΗΙΟΩαεηιορυω", "ἈἘἨἸὈὨἀἐἠἰὀῤὐὠ"⟩, ⟨0x314, "ΑΕΗΙΟΡΥΩαεηιορυω", "ἉἙἩἹὉῬὙὩἁἑἡἱὁῥὑὡ"⟩,
   ⟨0x31B, "OUou", "ƠƯơư"⟩,
   ⟨0x323, "ABDEHIKLMNORSTUVWYZabdehiklmnorstuvwyz", "ẠḄḌẸḤỊḲḶṂṆỌṚṢṬỤṾẈỴẒạḅḍẹḥịḳḷṃṇọṛṣṭụṿẉỵẓ"⟩,
   ⟨0x323, "ƠơƯư", "ỢợỰự"⟩, ⟨0x324, "Uu", "Ṳṳ"⟩, ⟨0x325, "Aa", "Ḁḁ"⟩, ⟨0x326, "STst", "ȘȚșț"⟩,
   ⟨0x327, "CDEGHKLNRSTcdeghklnrst", "ÇḐȨĢḨĶĻŅŖŞŢçḑȩģḩķļņŗşţ"⟩, ⟨0x328, "AEIOUaeiou", "ĄĘĮǪŲąęįǫų"⟩,
   ⟨0x32D, "DELNTUdelntu", "ḒḘḼṊṰṶḓḙḽṋṱṷ"⟩, ⟨0x32E, "Hh", "Ḫḫ"⟩, ⟨0x330, "EIUeiu", "ḚḬṴḛḭṵ"⟩,
   ⟨0x331, "BDKLNRTZbdhklnrtz", "ḆḎḴḺṈṞṮẔḇḏẖḵḻṉṟṯẕ"⟩,
   ⟨0x338, "<=>←→↔⇐⇒⇔∃∈∋∣∥∼≃≅≈≍≡≤≥≲≳≶≷≺≻≼≽⊂⊃⊆⊇⊑⊒⊢⊨", "≮≠≯↚↛↮⇍⇏⇎∄∉∌∤∦≁≄≇≉≭≢≰≱≴≵≸≹⊀⊁⋠⋡⊄⊅⊈⊉⋢⋣⊬⊭"⟩,
   ⟨0x338, "⊩⊫⊲⊳⊴⊵", "⊮⊯⋪⋫⋬⋭"⟩,
   ⟨0x342, "¨αηιυωϊϋἀἁἈἉἠἡἨἩἰἱἸἹὐὑὙὠὡὨὩ᾿῾", "῁ᾶῆῖῦῶῗῧἆἇἎἏἦἧἮἯἶἷἾἿὖὗὟὦὧὮὯ῏῟"⟩,
   ⟨0x345, "ΑΗΩάήαηωώἀἁἂἃἄἅἆἇἈἉἊἋἌἍἎἏἠἡἢἣἤἥἦἧἨἩἪἫἬ", "ᾼῌῼᾴῄᾳῃῳῴᾀᾁᾂᾃᾄᾅᾆᾇᾈᾉᾊᾋᾌᾍᾎᾏᾐᾑᾒᾓᾔᾕᾖᾗᾘᾙᾚᾛᾜ"⟩,
   ⟨0x345, "ἭἮἯὠὡὢὣὤὥὦὧὨὩὪὫὬὭὮὯὰὴὼᾶῆῶ", "ᾝᾞᾟᾠᾡᾢᾣᾤᾥᾦᾧᾨᾩᾪᾫᾬᾭᾮᾯᾲῂῲᾷῇῷ"⟩, ⟨0x653, "\u0627", "\u0622"⟩,
   ⟨0x654, "\u0627\u0648\u064a\u06c1\u06d2\u06d5", "\u0623\u0624\u0626\u06c2\u06d3\u06c0"⟩,
   ⟨0x655, "\u0627", "\u0625"⟩, ⟨0x93C, "नरळ", "ऩऱऴ"⟩, ⟨0x9BE, "\u09c7", "\u09cb"⟩,
   ⟨0x9D7, "\u09c7", "\u09cc"⟩, ⟨0xB3E, "\u0b47", "\u0b4b"⟩, ⟨0xB56, "\u0b47", "\u0b48"⟩,
   ⟨0xB57, "\u0b47", "\u0b4c"⟩, ⟨0xBBE, "\u0bc6\u0bc7", "\u0bca\u0bcb"⟩,
   ⟨0xBD7, "ஒ\u0bc6", "ஔ\u0bcc"⟩, ⟨0xC56, "\u0c46", "\u0c48"⟩, ⟨0xCC2, "\u0cc6", "\u0cca"⟩,
   ⟨0xCD5, "\u0cbf\u0cc6\u0cca", "\u0cc0\u0cc7\u0ccb"⟩, ⟨0xCD6, "\u0cc6", "\u0cc8"⟩,
   ⟨0xD3E, "\u0d46\u0d47", "\u0d4a\u0d4b"⟩, ⟨0xD57, "\u0d46", "\u0d4c"⟩,
   ⟨0xDCA, "\u0dd9\u0ddc", "\u0dda\u0ddd"⟩, ⟨0xDCF, "\u0dd9", "\u0ddc"⟩,
   ⟨0xDDF, "\u0dd9", "\u0dde"⟩, ⟨0x102E, "ဥ", "ဦ"⟩,
   ⟨0x1B35, "ᬅᬇᬉᬋᬍᬑ\u1b3a\u1b3c\u1b3e\u1b3f\u1b42", "ᬆᬈᬊᬌᬎᬒ\u1b3b\u1b3d\u1b40\u1b41\u1b43"⟩,
   ⟨0x3099, "うかきくけこさしすせそたちつてとはひふへほゝウカキクケコサシスセソタチツテト", "ゔがぎぐげござじずぜぞだぢづでどばびぶべぼゞヴガギグゲゴザジズゼゾダヂヅデド"⟩,
   ⟨0x3099, "ハヒフヘホワヰヱヲヽ", "バビブベボヷヸヹヺヾ"⟩, ⟨0x309A, "はひふへほハヒフヘホ", "ぱぴぷぺぽパピプペポ"⟩,
   ⟨0x110BA, "𑂙𑂛𑂥", "𑂚𑂜𑂫"⟩, ⟨0x11127, "𑄱𑄲", "𑄮𑄯"⟩, ⟨0x1133E, "𑍇", "𑍋"⟩, ⟨0x11357, "𑍇", "𑍌"⟩,
   ⟨0x113B8, "𑏂", "𑏇"⟩, ⟨0x113BB, "𑎄", "𑎅"⟩, ⟨0x113C2, "𑎎", "𑎎𑏅"⟩, ⟨0x113C9, "𑎂𑎐𑏂", "𑎃𑎑𑏈"⟩,
   ⟨0x114B0, "𑒹", "𑒼"⟩, ⟨0x114BA, "𑒹", "𑒻"⟩, ⟨0x114BD, "𑒹", "𑒾"⟩, ⟨0x115AF, "𑖸𑖹", "𑖺𑖻"⟩,
   ⟨0x11930, "𑤵", "𑤸"⟩, ⟨0x1611E, "𖄞", "𖄡"⟩, ⟨0x1611F, "𖄡𖄡𖄩𖄩", "𖄣𖄦𖄧𖄤"⟩, ⟨0x16120, "𖄡𖄞", "𖄥𖄨"⟩,
   ⟨0x16129, "𖄞", "𖄢"⟩, ⟨0x16D67, "𖵩𖵩", "𖵪𖵧𖵪"⟩]

/-! ## Syllables -/

/-- The syllables of Hangul: each is a lead and a vowel, and perhaps a
tail. -/
def firstSyllable : Nat := 0xAC00

def leadBase : Nat := 0x1100

def vowelBase : Nat := 0x1161

/-- One before the first tail. -/
def tailBase : Nat := 0x11A7

def leadCount : Nat := 19

def vowelCount : Nat := 21

/-- The tails, and none. -/
def tailCount : Nat := 28

/-- The place of a code point in a block of `count` from `base`. -/
def placeIn? (base count n : Nat) : Option Nat :=
  if base ≤ n ∧ n < base + count then some (n - base) else none

/-- The place of a syllable among all. -/
def syllable? (n : Nat) : Option Nat :=
  placeIn? firstSyllable (leadCount * vowelCount * tailCount) n

/-- The syllable that two characters make. -/
def joinedSyllable? (a b : Nat) : Option Nat :=
  match placeIn? leadBase leadCount a, placeIn? vowelBase vowelCount b with
  | some lead, some vowel => some (firstSyllable + (lead * vowelCount + vowel) * tailCount)
  | _, _ =>
    match syllable? a, placeIn? tailBase tailCount b with
    | some body, some tail => if body % tailCount = 0 ∧ tail ≠ 0 then some (a + tail) else none
    | _, _ => none

/-- The two characters that make a syllable. -/
def syllableParts? (n : Nat) : Option (Nat × Nat) :=
  (syllable? n).map fun s =>
    if s % tailCount = 0 then
      (leadBase + s / tailCount / vowelCount, vowelBase + s / tailCount % vowelCount)
    else (n - s % tailCount, tailBase + s % tailCount)

/-! ## Pairs -/

/-- What stands in the second list where a character stands in the
first. -/
def matching? (c : Char) : List Char → List Char → Option Char
  | a :: as, b :: bs => if a = c then some b else matching? c as bs
  | _, _ => none

/-- The character that two make. -/
def whole? (a b : Char) : Option Char :=
  match joinedSyllable? a.toNat b.toNat with
  | some n => some (Char.ofNat n)
  | none =>
    pairings.findSome? fun p =>
      if p.second = b.toNat then matching? a p.firsts.toList p.wholes.toList else none

/-- The two characters that make one. -/
def parts? (c : Char) : Option (Char × Char) :=
  match syllableParts? c.toNat with
  | some (a, b) => some (Char.ofNat a, Char.ofNat b)
  | none =>
    if c.toNat < 0xC0 then none
    else
      pairings.findSome? fun p =>
        (matching? c p.wholes.toList p.firsts.toList).map fun a => (a, Char.ofNat p.second)

/-! ## Normal form -/

/-- How often the first part of a character can be taken apart again. -/
def depth : Nat := 3

/-- A character taken apart; its second part is never a whole itself. -/
def takenApart : Nat → Char → List Char
  | 0, c => [c]
  | n + 1, c =>
    match parts? c with
    | some (a, b) => takenApart n a ++ [b]
    | none => [c]

/-- Puts together what follows a first character; `between` are the marks
after it so far, backwards. A mark is out of reach behind one of its own
class or a higher one. -/
def putTogether (first : Char) (between : List Char) : List Char → List Char
  | [] => first :: between.reverse
  | c :: rest =>
    let isInReach :=
      match between with
      | [] => true
      | m :: _ => combiningClass m < combiningClass c
    match if isInReach then whole? first c else none with
    | some whole => putTogether whole between rest
    | none =>
      if combiningClass c = 0 then (first :: between.reverse) ++ putTogether c [] rest
      else putTogether first (c :: between) rest

/-- Puts together the characters of a text; marks before its first letter
stay as they are. -/
def joined : List Char → List Char
  | [] => []
  | c :: rest => if combiningClass c = 0 then putTogether c [] rest else c :: joined rest

/-- The text with each pair that has one written as one character. -/
def composed (s : List Char) : List Char := joined (arranged (s.flatMap (takenApart depth)))

end Text

end Amanuensis
