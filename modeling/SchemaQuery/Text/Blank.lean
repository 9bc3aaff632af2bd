/-!
# Blank characters

Blank space is a class of twenty-nine characters: the control characters that
move the print position or separate records, the no-break space, and the
spaces and line separators of Unicode.  The zero-width space is not one of
them.  Names, values and tokens are trimmed of blank space at both ends before
they are looked at.
-/

namespace SchemaQuery
namespace Text

def blankCodes : List Nat :=
  [0x09, 0x0A, 0x0B, 0x0C, 0x0D, 0x1C, 0x1D, 0x1E, 0x1F, 0x20, 0x85, 0xA0, 0x1680,
   0x2000, 0x2001, 0x2002, 0x2003, 0x2004, 0x2005, 0x2006, 0x2007, 0x2008, 0x2009, 0x200A,
   0x2028, 0x2029, 0x202F, 0x205F, 0x3000]

def isBlank (character : Char) : Bool :=
  blankCodes.contains character.toNat

def trimCharacters (characters : List Char) : List Char :=
  ((characters.dropWhile isBlank).reverse.dropWhile isBlank).reverse

def trim (text : String) : String :=
  String.ofList (trimCharacters text.toList)

def isBlankText (text : String) : Bool :=
  text.toList.all isBlank

@[simp]
theorem toList_trim (text : String) :
    (trim text).toList = trimCharacters text.toList := by
  simp [trim]

/-- Writes each run of blank characters as one space. -/
def collapseFrom (afterSpace : Bool) : List Char → List Char
  | [] => []
  | character :: rest =>
      if isBlank character then
        if afterSpace then collapseFrom true rest
        else ' ' :: collapseFrom true rest
      else character :: collapseFrom false rest

/-- One line of text, with single spaces between words. -/
def singleLine (text : String) : String :=
  String.ofList (trimCharacters (collapseFrom false text.toList))

end Text
end SchemaQuery
