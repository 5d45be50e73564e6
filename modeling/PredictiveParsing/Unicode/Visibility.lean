import PredictiveParsing.Unicode.Property

/-!
Which characters show on their own when a text is quoted: those that have a form,
take up space and stand beside the character before them. The tables of the
seventeenth edition of the standard decide.
-/
namespace PredictiveParsing.Unicode

/-- Characters that show and that the seventeenth edition of the standard adds. -/
private def addedVisible : RangeSet :=
  .ofText "88F C5C CDC 20C1 2B96 A7CE-A7CF A7D2 A7D4 A7F1 FBC3-FBD2 FD90-FD91 FDC8-FDCE 10940-10959
    10EC5-10EC7 10ED0-10ED8 11B61 11B65 11B67 11DB0-11DDB 11DE0-11DE9 16EA0-16EB8 16EBB-16ED3
    16FF2-16FF6 187F8-187FF 18D09-18D1E 18D80-18DF2 1CCFA-1CCFC 1CEBA-1CED0 1CEE0-1CEF0 1E6C0-1E6DE
    1E6E0-1E6E2 1E6E4-1E6E5 1E6E7-1E6ED 1E6F0-1E6F4 1E6FE-1E6FF 1F6D8 1F777-1F77A 1F8D0-1F8D8
    1FA54-1FA57 1FA8A 1FA8E 1FAC8 1FACD 1FAEA 1FAEF 1FBFA 2B73A-2B73F 2CEA2-2CEAD 323B0-33479"

/-- Letters without a form, which fill the place of a part of a syllable. -/
private def fillers : RangeSet :=
  .ofText "115F-1160 3164 FFA0"

/-- Marks that extend the character before them and yet show on their own. -/
private def soundMarks : RangeSet :=
  .ofText "FF9E-FF9F"

/-- The space, and letters, marks, numbers, punctuation and symbols that have a
form and do not attach to the character before them. -/
def visible : RangeSet :=
  let formed := Category.members
    (Category.letter ++ Category.mark ++ Category.number ++ Category.punctuation ++ Category.symbol)
  let spaced := (formed.union addedVisible).union (.single ' ')
  (spaced.diff (graphemeExtend.union fillers)).union soundMarks

/-- Whether the character shows on its own. -/
def isVisible (c : Char) : Bool :=
  (' ' ≤ c && c ≤ '~') || visible.contains c

end PredictiveParsing.Unicode
