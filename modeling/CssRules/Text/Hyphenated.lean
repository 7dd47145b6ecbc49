/-!
The hyphenated form of a camelCase name: every ASCII capital becomes a hyphen and the small letter, and
all other characters stay. A leading capital gives a leading hyphen, which is how vendor properties are
spelled.
-/

namespace CssRules.Text

def hyphenatedLetter (c : Char) : List Char := if c.isUpper then ['-', c.toLower] else [c]

/-- The hyphenated form of a name, as characters. -/
def hyphenatedLetters (name : List Char) : List Char := name.flatMap hyphenatedLetter

def hyphenated (name : String) : String := String.ofList (hyphenatedLetters name.toList)

@[simp] theorem hyphenatedLetters_nil : hyphenatedLetters [] = [] := rfl

@[simp] theorem hyphenatedLetters_cons (c : Char) (name : List Char) :
    hyphenatedLetters (c :: name) = hyphenatedLetter c ++ hyphenatedLetters name := by
  simp [hyphenatedLetters]

theorem hyphenatedLetters_append (left right : List Char) :
    hyphenatedLetters (left ++ right) = hyphenatedLetters left ++ hyphenatedLetters right := by
  simp [hyphenatedLetters]

@[simp] theorem toList_hyphenated (name : String) :
    (hyphenated name).toList = hyphenatedLetters name.toList := by
  simp [hyphenated]

end CssRules.Text
