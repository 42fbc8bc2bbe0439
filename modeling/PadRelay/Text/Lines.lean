/-!
# PadRelay.Text.Lines

The lines of a text. A line feed ends a line and takes the carriage return before it along; what
follows the last line feed is a line only if there is something.
-/

namespace PadRelay
namespace Text

/-- A line that a line feed ended, without the carriage return before it. `line` is reversed. -/
def endLine : List Char → List Char
  | '\r' :: line => line.reverse
  | line => line.reverse

/-- The lines of a text behind `line`, the reversed part of the current line already seen, and
`done`, the reversed lines before it. -/
def linesFrom (done : List (List Char)) (line : List Char) : List Char → List (List Char)
  | [] => (if line.isEmpty then done else line.reverse :: done).reverse
  | c :: rest =>
    if c = '\n' then linesFrom (endLine line :: done) [] rest
    else linesFrom done (c :: line) rest

/-- The lines of a text, without their ends. -/
def lines (cs : List Char) : List (List Char) := linesFrom [] [] cs

end Text
end PadRelay
