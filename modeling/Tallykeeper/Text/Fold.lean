/-!
# Caseless matching against ASCII words

A text matches an ASCII word caselessly when both have the same number of characters
and each character of the text folds onto the word's character at the same place. By
Unicode simple case folding a letter folds onto its other case; the only characters
outside ASCII that fold onto an ASCII letter are U+017F LATIN SMALL LETTER LONG S, onto
`s`, and U+212A KELVIN SIGN, onto `k`.
-/

namespace Tallykeeper
namespace Text
namespace Fold

/-- Whether character `c` folds onto the ASCII character `a`. -/
def foldsOnto (c a : Char) : Bool :=
  c == a ||
    (a.isAlpha && c.isAlpha && c.toLower == a.toLower) ||
    (a.toLower == 's' && c.toNat == 0x17F) ||
    (a.toLower == 'k' && c.toNat == 0x212A)

/-- Whether two character lists match caselessly, the second being ASCII. -/
def matchList : List Char → List Char → Bool
  | [], [] => true
  | c :: cs, a :: as => foldsOnto c a && matchList cs as
  | _, _ => false

/-- Whether a text matches an ASCII word caselessly. -/
def matchesWord (text word : String) : Bool :=
  matchList text.toList word.toList

end Fold
end Text
end Tallykeeper
