/-
# Upper case

State codes are compared in upper case.  The known codes are made of ASCII characters, so a
character takes part in one only if its upper case is made of ASCII letters.  Outside ASCII that
holds for the dotless i, the long s, the sharp s and the Latin ligatures alone; every other
character beyond ASCII is left as it is, which is no ASCII character either way.
-/

namespace NodeDemand.Text

/-- The characters beyond ASCII whose upper case is made of ASCII letters. -/
def asciiUpperCases : List (Char × List Char) :=
  [('ß', ['S', 'S']), ('ı', ['I']), ('ſ', ['S']), ('ﬀ', ['F', 'F']), ('ﬁ', ['F', 'I']),
    ('ﬂ', ['F', 'L']), ('ﬃ', ['F', 'F', 'I']), ('ﬄ', ['F', 'F', 'L']), ('ﬅ', ['S', 'T']),
    ('ﬆ', ['S', 'T'])]

/-- The upper case of a character where that is made of ASCII letters, and else the character. -/
def upperCaseChar (c : Char) : List Char := (asciiUpperCases.lookup c).getD [c.toUpper]

/-- A text in upper case. -/
def upperCase (s : List Char) : List Char := s.flatMap upperCaseChar

/-- A text with its ASCII letters in lower case. -/
def asciiLowerCase (s : List Char) : List Char := s.map Char.toLower

end NodeDemand.Text
