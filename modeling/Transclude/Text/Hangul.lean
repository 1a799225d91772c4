/-!
# Hangul

The Korean syllables and the letters that they are made of. A syllable has an initial, a vowel and
perhaps a final, and the syllables stand in the order of these three.

## Main definitions

* `Hangul.syllable`  : the syllable of three letters.
* `Hangul.letterNumbers` : the letters of a syllable.
-/

namespace Transclude.Hangul

/-- The letters that start a syllable, in their order. -/
def initials : List Char := "ㄱㄲㄴㄷㄸㄹㅁㅂㅃㅅㅆㅇㅈㅉㅊㅋㅌㅍㅎ".toList

/-- The letters inside a syllable, in their order. -/
def vowels : List Char := "ㅏㅐㅑㅒㅓㅔㅕㅖㅗㅘㅙㅚㅛㅜㅝㅞㅟㅠㅡㅢㅣ".toList

/-- The letters that end a syllable, in their order; they count from one, and zero is no letter. -/
def finals : List Char := "ㄱㄲㄳㄴㄵㄶㄷㄹㄺㄻㄼㄽㄾㄿㅀㅁㅂㅄㅅㅆㅇㅈㅊㅋㅌㅍㅎ".toList

/-- The first syllable. -/
def firstSyllable : Nat := 0xAC00

/-- The number of syllables. -/
def syllableCount : Nat := 19 * 21 * 28

/-- The syllable of the numbers of its letters. -/
def syllable (initial vowel final : Nat) : Char :=
  Char.ofNat (firstSyllable + (initial * 21 + vowel) * 28 + final)

/-- The numbers of the letters of a syllable. -/
def letterNumbers (c : Char) : Option (Nat × Nat × Nat) :=
  let n := c.toNat - firstSyllable
  if firstSyllable ≤ c.toNat ∧ n < syllableCount then some (n / 588, n / 28 % 21, n % 28) else none

end Transclude.Hangul
