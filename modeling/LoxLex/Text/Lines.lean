/-!
# Lines of bytes

A line ends after each line feed; the last one may lack it. A line is a text if its bytes are valid UTF-8.
-/

namespace LoxLex

def lineFeed : UInt8 := 10

def splitLines (bs : List UInt8) : List (List UInt8) :=
  go bs [] #[]
where
  /-- The bytes of the current line are kept in reverse. -/
  go : List UInt8 → List UInt8 → Array (List UInt8) → List (List UInt8)
    | [], [], lines => lines.toList
    | [], line, lines => (lines.push line.reverse).toList
    | b :: bs, line, lines =>
      if b = lineFeed then go bs [] (lines.push (b :: line).reverse)
      else go bs (b :: line) lines

theorem flatten_splitLines (bs : List UInt8) : (splitLines bs).flatten = bs := by
  have h : ∀ bs line lines,
      (splitLines.go bs line lines).flatten = lines.toList.flatten ++ line.reverse ++ bs := by
    intro bs
    induction bs with
    | nil => intro line lines; cases line <;> simp [splitLines.go]
    | cons b bs ih => intro line lines; by_cases hb : b = lineFeed <;> simp [splitLines.go, hb, ih]
  simpa [splitLines] using h bs [] #[]

def decodeUtf8? (bs : List UInt8) : Option String := String.fromUTF8? ⟨bs.toArray⟩

end LoxLex
