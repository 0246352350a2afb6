/-!
# Composed letters

Many letters with a mark are characters of their own. A text in composed form never writes such a
letter as a letter followed by its mark. The table holds the pairs that have a composed form, of
those whose parts stand in domain names.
-/

namespace Outreach.Url

/-- Marks, each with the letters that have a composed form with it. -/
def composedPairs : List (Char × String) := [
  ('\u0300', "aeinouwyâêôüăēōơưαεηιουωϊϋеиἀἁἐἑἠἡἰἱὀὁὐὑὠὡ"),
  ('\u0301', "acegiklmnoprsuwyzâåæçêïôõøüăēōũơưαεηιουωϊϋгкἀἁἐἑἠἡἰἱὀὁὐὑὠὡ"),
  ('\u0302', "aceghijosuwyzạẹọ"), ('\u0303', "aeinouvyâêôăơư"),
  ('\u0304', "aegiouyäæõöüǫȧȯαιυиуḷṛ"), ('\u0306', "aegiouȩαιυаежиуạ"),
  ('\u0307', "abcdefghmnoprstwxyzśšṣ"), ('\u0308', "aehiotuwxyõūιυаежзиоучыэіәө"),
  ('\u0309', "aeiouyâêôăơư"), ('\u030a', "auwy"), ('\u030b', "ouу"),
  ('\u030c', "acdeghijklnorstuzüʒ"), ('\u030f', "aeioruѵ"), ('\u0311', "aeioru"),
  ('\u0313', "αεηιορυω"), ('\u0314', "αεηιορυω"), ('\u031b', "ou"),
  ('\u0323', "abdehiklmnorstuvwyzơư"), ('\u0324', "u"), ('\u0325', "a"), ('\u0326', "st"),
  ('\u0327', "cdeghklnrst"), ('\u0328', "aeiou"), ('\u032d', "delntu"), ('\u032e', "h"),
  ('\u0330', "eiu"), ('\u0331', "bdhklnrtz"), ('\u0342', "αηιυωϊϋἀἁἠἡἰἱὐὑὠὡ"),
  ('\u0653', "\u0627"), ('\u0654', "\u0627\u0648\u064a\u06c1\u06d2\u06d5"), ('\u0655', "\u0627"),
  ('\u093c', "नरळ"), ('\u09be', "\u09c7"), ('\u09d7', "\u09c7"), ('\u0b3e', "\u0b47"),
  ('\u0b56', "\u0b47"), ('\u0b57', "\u0b47"), ('\u0bbe', "\u0bc6\u0bc7"), ('\u0bd7', "ஒ\u0bc6"),
  ('\u0c56', "\u0c46"), ('\u0cc2', "\u0cc6"), ('\u0cd5', "\u0cbf\u0cc6\u0cca"),
  ('\u0cd6', "\u0cc6"), ('\u0d3e', "\u0d46\u0d47"), ('\u0d57', "\u0d46"),
  ('\u0dca', "\u0dd9\u0ddc"), ('\u0dcf', "\u0dd9"), ('\u0ddf', "\u0dd9"), ('\u102e', "ဥ"),
  ('\u1b35', "ᬅᬇᬉᬋᬍᬑ\u1b3a\u1b3c\u1b3e\u1b3f\u1b42"),
  ('\u3099', "うかきくけこさしすせそたちつてとはひふへほゝウカキクケコサシスセソタチツテトハヒフヘホワヰヱヲヽ"), ('\u309a', "はひふへほハヒフヘホ")]

/-- A letter and the character after it have a composed form. -/
def isComposable (letter mark : Char) : Bool :=
  match composedPairs.lookup mark with
  | some letters => letters.toList.contains letter
  | none => false

/-- The text holds no letter that is written apart from its mark. -/
def isComposed : List Char → Bool
  | first :: second :: rest => !isComposable first second && isComposed (second :: rest)
  | _ => true

end Outreach.Url
