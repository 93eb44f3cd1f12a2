/-! Patterns that texts are compared with: any characters, one character, letter case aside. -/

namespace Joinery

/-- Whether two characters agree, the case of ASCII letters aside. -/
def agreesInPattern (a b : Char) : Bool :=
  a.toLower = b.toLower

mutual

/-- Whether a text has the form of a pattern. -/
def matchesPattern : List Char → List Char → Bool
  | [], text => text.isEmpty
  | p :: pattern, text =>
    if p = '%' then matchesSomewhere pattern text
    else
      match text with
      | [] => false
      | c :: rest => (p = '_' || agreesInPattern p c) && matchesPattern pattern rest
termination_by pattern text => (pattern.length, 0, text.length)

/-- Whether some end of a text has the form of a pattern. -/
def matchesSomewhere (pattern : List Char) : List Char → Bool
  | [] => matchesPattern pattern []
  | c :: rest => matchesPattern pattern (c :: rest) || matchesSomewhere pattern rest
termination_by text => (pattern.length, 1, text.length)

end

/-- The characters of a text up to one that ends it. -/
def patternText (text : String) : List Char :=
  text.toList.takeWhile (· ≠ '\x00')

/-- Whether a text has the form of a pattern. -/
def likeText (pattern text : String) : Bool :=
  matchesPattern (patternText pattern) (patternText text)

end Joinery
