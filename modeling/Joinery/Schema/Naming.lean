import Joinery.Text.Blank

/-! The forms of names and of ordering terms in a schema. -/

namespace Joinery

/-- The characters that a name may begin with. -/
def isNameStart (c : Char) : Bool :=
  ('A' ≤ c && c ≤ 'Z') || ('a' ≤ c && c ≤ 'z') || c = '_'

/-- The characters that a name may go on with. -/
def isNamePart (c : Char) : Bool :=
  isNameStart c || ('0' ≤ c && c ≤ '9')

/-- A name without the line end that may close it. -/
def withoutLineEnd (cs : List Char) : List Char :=
  if cs.getLast? = some '\n' then cs.dropLast else cs

/-- Letters, digits and underscores, no digit in front; a line end may follow. -/
def isName (name : String) : Bool :=
  match withoutLineEnd name.toList with
  | [] => false
  | first :: rest => isNameStart first && rest.all isNamePart

/-- Whether a character is a letter of the alphabet, letter case aside; the long s counts as one. -/
def isLetter (letter c : Char) : Bool :=
  c.toLower = letter || (letter = 's' && c = 'ſ')

/-- Whether a word is spelled by the characters, letter case aside. -/
def spellsWord (word cs : List Char) : Bool :=
  word.length = cs.length && (word.zip cs).all fun (letter, c) => isLetter letter c

/-- Whether the characters after an ordering field are at most a direction. -/
def isDirection (rest : List Char) : Bool :=
  let word := trimChars rest
  word.isEmpty ||
    (rest.head?.any isBlank && (spellsWord "asc".toList word || spellsWord "desc".toList word))

/-- The field that an ordering term names, when the term has the form of one. -/
def orderedField? (term : List Char) : Option String :=
  let body := term.dropWhile isBlank
  match body.takeWhile isNamePart with
  | [] => none
  | first :: rest =>
    if isNameStart first && isDirection (body.drop (rest.length + 1)) then
      some (String.ofList (first :: rest))
    else none

/-- The parts of a text between commas. -/
def splitCommas : List Char → List (List Char)
  | [] => [[]]
  | c :: rest =>
    match splitCommas rest with
    | [] => [[c]]
    | part :: parts => if c = ',' then [] :: part :: parts else (c :: part) :: parts

end Joinery
