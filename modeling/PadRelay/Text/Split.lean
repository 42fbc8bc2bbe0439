/-!
# PadRelay.Text.Split

Cutting lists at separators.

* `splitAt`: the parts between separators, at least one.
* `cutAt`: what stands before the first separator, and what stands behind it if there is one.
-/

namespace PadRelay
namespace Text

variable {α : Type} [DecidableEq α]

/-- The parts of a list between separators, behind the part `part`, reversed, that is being
read. -/
def splitFrom (separator : α) (part : List α) : List α → List (List α)
  | [] => [part.reverse]
  | a :: rest =>
    if a = separator then part.reverse :: splitFrom separator [] rest
    else splitFrom separator (a :: part) rest

/-- The parts of a list between separators. -/
def splitAt (separator : α) (as : List α) : List (List α) := splitFrom separator [] as

/-- What stands before the first separator, and what stands behind it if there is one. -/
def cutAt (separator : α) (as : List α) : List α × Option (List α) :=
  match as.dropWhile (· != separator) with
  | [] => (as, none)
  | _ :: rest => (as.takeWhile (· != separator), some rest)

end Text
end PadRelay
