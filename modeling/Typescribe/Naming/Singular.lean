import Typescribe.Text.LowerCase

/-!
This module contains the singular of English words: words that have none, irregular words, and rules
for endings, of which the first that fits is applied.
-/

namespace Typescribe.Naming

def uncountable : List String := [
  "data", "metadata", "media", "news", "series", "species", "information", "equipment", "feedback",
  "software", "sheep", "fish", "deer", "rice", "money", "music"
]

def irregular : List (String × String) := [
  ("people", "person"), ("men", "man"), ("women", "woman"), ("children", "child"),
  ("teeth", "tooth"), ("feet", "foot"), ("geese", "goose"), ("mice", "mouse"), ("oxen", "ox"),
  ("criteria", "criterion"), ("phenomena", "phenomenon"), ("indices", "index"),
  ("appendices", "appendix"), ("matrices", "matrix"), ("vertices", "vertex"), ("movies", "movie"),
  ("cookies", "cookie"), ("zombies", "zombie"), ("caches", "cache"), ("niches", "niche"),
  ("shoes", "shoe"), ("quizzes", "quiz"), ("buses", "bus"), ("lives", "life"), ("wives", "wife"),
  ("knives", "knife"), ("valves", "valve"), ("menus", "menu"), ("gurus", "guru")
]

/-- A set of letters: those in a list, or all but those in a list. -/
inductive Letter where
  | oneOf (letters : List Char)
  | noneOf (letters : List Char)
deriving DecidableEq, Repr

def Letter.test : Letter → Char → Bool
  | oneOf letters, c => letters.contains c
  | noneOf letters, c => !letters.contains c

def word (s : String) : List Letter :=
  s.toList.map fun c => .oneOf [c]

/--
A rule for an ending: where one of the stems stands before the ending, the ending gives way to the
replacement.
-/
structure SuffixRule where
  stems : List (List Letter)
  ending : String
  replacement : String
deriving DecidableEq, Repr

def startsWithLetters : List Letter → List Char → Bool
  | [], _ => true
  | _ :: _, [] => false
  | letter :: letters, c :: cs => letter.test c && startsWithLetters letters cs

/-- The word after the rule, if the rule fits; the word and the result are reversed. -/
def SuffixRule.applyReversed? (rule : SuffixRule) (reversed : List Char) : Option (List Char) :=
  if rule.ending.toList.reverse.isPrefixOf reversed then
    let stem := reversed.drop rule.ending.toList.length
    if rule.stems.any fun letters => startsWithLetters letters.reverse stem then
      some (rule.replacement.toList.reverse ++ stem)
    else none
  else none

/-- The rules in the order in which they are tried. -/
def suffixRules : List SuffixRule := [
  ⟨["ss", "us", "is", "alias", "atlas", "canvas", "gas"].map word, "", ""⟩,
  ⟨["analy", "diagno", "parenthe", "progno", "synop", "the", "cri"].map word, "ses", "sis"⟩,
  ⟨[[.noneOf ['a', 'e', 'i', 'o', 'u', 'y']], word "qu"], "ies", "y"⟩,
  ⟨[word "ar", word "wol", [.oneOf ['a', 'e'], .oneOf ['l']],
    [.oneOf ['e', 'o'], .oneOf ['a', 'o']]], "ves", "f"⟩,
  ⟨["x", "ch", "sh", "ss", "zz"].map word, "es", ""⟩,
  ⟨[.noneOf ['a', 'o', 'u'] :: word "us", word "alias", word "atlas", word "canvas", word "gas"],
    "es", ""⟩,
  ⟨[[]], "s", ""⟩
]

def applyRules (cs : List Char) : List Char :=
  match suffixRules.findSome? (·.applyReversed? cs.reverse) with
  | some reversed => reversed.reverse
  | none => cs

/-- The singular of a word in lower case. A line feed at its end is no part of the word. -/
def singularizeLower (cs : List Char) : List Char :=
  if cs.isEmpty || uncountable.contains (String.ofList cs) then
    cs
  else
    match irregular.lookup (String.ofList cs) with
    | some singular => singular.toList
    | none =>
      if cs.getLast? = some '\n' then
        applyRules cs.dropLast ++ ['\n']
      else
        applyRules cs

def singularize (cs : List Char) : List Char :=
  singularizeLower (Text.lowerCase cs)

end Typescribe.Naming
