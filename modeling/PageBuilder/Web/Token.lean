/-!
# Tokens

Methods, names of headers and the parts of media types are words of certain characters.
-/

namespace PageBuilder
namespace Web

/-- A character of a method. -/
def isMethodChar (c : Char) : Bool := c.isAlphanum || "!*+-.^_\x60|~".toList.contains c

/-- The text is a method. -/
def isMethod (s : String) : Bool := s ≠ "" && s.toList.all isMethodChar

/-- A character of a token. -/
def isTokenChar (c : Char) : Bool := isMethodChar c || "#$%&'".toList.contains c

/-- Names of headers are tokens. -/
def isToken (s : String) : Bool := s ≠ "" && s.toList.all isTokenChar

end Web
end PageBuilder
