import SessionTelemetry.Text.CodeRanges

/-!
# White space and trimming

Blank characters are those with the property White_Space and the four separators U+001C to U+001F.
-/

namespace SessionTelemetry

namespace Text

def blankRanges : CodeRanges :=
  [(0x9, 0xD), (0x1C, 0x20), (0x85, 0x85), (0xA0, 0xA0), (0x1680, 0x1680), (0x2000, 0x200A),
   (0x2028, 0x2029), (0x202F, 0x202F), (0x205F, 0x205F), (0x3000, 0x3000)]

def isBlank (c : Char) : Bool := blankRanges.contains c

example : blankRanges.ascending = true ∧ blankRanges.count = 29 := by decide

def trimEndWhile (p : Char → Bool) (s : List Char) : List Char :=
  (s.reverse.dropWhile p).reverse

def trimWhile (p : Char → Bool) (s : List Char) : List Char :=
  trimEndWhile p (s.dropWhile p)

def trimmed (s : String) : String := String.ofList (trimWhile isBlank s.toList)

end Text

end SessionTelemetry
