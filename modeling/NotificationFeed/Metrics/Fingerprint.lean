/-!
# Fingerprints of label values

A series is found again by a word of 64 bits made from the values of its
labels. Their bytes are taken in one after the other, with nothing between
the end of a value and the start of the next, so only the text the values
make together counts, and not where it is cut.
-/

namespace NotificationFeed

namespace Metrics

/-- The word a series is found by. -/
abbrev Fingerprint := UInt64

namespace Fingerprint

/-- The fingerprint of no bytes. -/
def basis : Fingerprint := 0xcbf29ce484222325

/-- What each byte spreads the word by. -/
def multiplier : Fingerprint := 0x100000001b3

/-- Takes in one byte: into the low bits first, then over the whole word. -/
def absorb (word : Fingerprint) (byte : UInt8) : Fingerprint :=
  (word ^^^ byte.toUInt64) * multiplier

/-- The fingerprint of a text. -/
def ofChars (text : List Char) : Fingerprint :=
  (text.flatMap String.utf8EncodeChar).foldl absorb basis

/-- The fingerprint of the values of labels, in the order in which their family declares them. -/
def ofValues (values : List String) : Fingerprint := ofChars (values.flatMap String.toList)

end Fingerprint

end Metrics

end NotificationFeed
