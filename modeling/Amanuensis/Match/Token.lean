import Amanuensis.Text.Letter
import Amanuensis.Text.Lowercase
import Amanuensis.Text.Runs
/-!
# Tokens

Requests and trigger phrases are compared word by word. `tokenize` lowers
the case of a text and cuts it into its maximal runs of letters and
numbers, so that case and punctuation make no difference. The module also
holds the two closed word lists of the matcher: the stopwords, of which a
request may not consist entirely, and the inflections that a word of a
request may add to a word of a phrase.
-/


namespace Amanuensis

namespace Match

/-- A word of a request or of a phrase. -/
abbrev Token := List Char

/-- The words of a text, in lower case. -/
def tokenize (s : List Char) : List Token := Text.runs Text.isLetterOrNumber (Text.lowercase s)

/-- The words that carry no intent of their own. -/
def stopwords : List Token :=
  ["a", "an", "the", "and", "or", "but", "to", "of", "in", "on", "at", "for", "with", "by",
    "from", "is", "are", "was", "were", "be", "been", "it", "its", "this", "that", "these",
    "those", "i", "me", "my", "you", "your", "we", "our", "he", "she", "they", "them", "please",
    "can", "could", "would", "will", "should", "do", "does", "did", "so", "just", "some",
    "any"].map String.toList

def isStopword (t : Token) : Bool := stopwords.contains t

/-- What a word of a request may add to a word of a phrase. -/
def inflections : List Token := ["s", "es", "d", "ed", "ing"].map String.toList

/-- Is the text an inflection, or nothing at all? -/
def isInflection (t : Token) : Bool := t.isEmpty || inflections.contains t

end Match

end Amanuensis
