import Companion.Text.Case
import Companion.Text.Grapheme

/-! Names of constants. A name is cut into words at underscores, hyphens and spaces, and where the
case of its letters changes or digits begin or end; the words are written in upper case with
underscores between them. Letters are grapheme clusters, so a letter and its marks stay together. -/
namespace Companion.Text

/-- What a letter is to the cutting of words. -/
inductive LetterKind where
  | separator | upper | lower | digit | other
  deriving DecidableEq, Repr

/-- A letter has a case when its two forms differ. -/
def letterKind (letter : List Char) : LetterKind :=
  if letter = ['_'] || letter = ['-'] || letter = [' '] then .separator
  else if letter.all Char.isDigit then .digit
  else if upper letter = lower letter then .other
  else if letter = upper letter then .upper
  else if letter = lower letter then .lower
  else .other

/-- Whether a word starts between two neighbours. -/
def startsBetween : LetterKind → LetterKind → Bool
  | .lower, .upper | .upper, .digit | .digit, .upper | .digit, .lower | .lower, .digit => true
  | _, _ => false

/-- Whether a word starts before the second of three: the last capital of a run of capitals belongs
to the word that follows it. -/
def startsAcronymEnd : LetterKind → LetterKind → LetterKind → Bool
  | .upper, .upper, .lower => true
  | _, _, _ => false

/-- The kind of the first letter of a text. -/
def headKind : List (List Char) → LetterKind
  | [] => .other
  | g :: _ => letterKind g

/-- The words of a text that follows a letter of kind `before`; `word` is the unfinished word. -/
def wordsFrom (before : LetterKind) (word : List Char) : List (List Char) → List (List Char)
  | [] => [word]
  | g :: gs =>
    let kind := letterKind g
    if kind = .separator then word :: wordsFrom kind [] gs
    else if startsBetween before kind || startsAcronymEnd before kind (headKind gs) then
      word :: wordsFrom kind g gs
    else wordsFrom kind (word ++ g) gs

/-- The words of a name, none of them empty. -/
def wordsOf (name : List Char) : List (List Char) :=
  (wordsFrom .other [] (clusters name)).filter fun w => !w.isEmpty

/-- The words with underscores between them. -/
def joinUnderscore : List (List Char) → List Char
  | [] => []
  | [w] => w
  | w :: ws => w ++ '_' :: joinUnderscore ws

/-- The name of the constant that goes with a type's name. -/
def screamingSnake (name : String) : String :=
  String.ofList (joinUnderscore ((wordsOf name.toList).map upper))

end Companion.Text
