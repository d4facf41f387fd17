import PathRouting.Regex.CharSet
import PathRouting.Text.Basic

/-!
# Blanks and comments

With the verbose flag, white space and comments may stand between the parts of an expression. A
comment runs from `#` to the end of its line.
-/

namespace PathRouting.Regex

/-- Skips blanks and comments; `comment` says whether the text starts inside a comment. -/
def skipBlanksFrom (comment : Bool) : Text → Text
  | [] => []
  | c :: rest =>
    if comment then skipBlanksFrom (c != '\n') rest
    else if isSpace c then skipBlanksFrom false rest
    else if c = '#' then skipBlanksFrom true rest
    else c :: rest

/-- Skips blanks and comments where the verbose flag allows them. -/
def skipBlanks (verbose : Bool) (t : Text) : Text :=
  if verbose then skipBlanksFrom false t else t

/-- Reads characters as long as they satisfy `p`, skipping blanks and comments around them where
the verbose flag allows it; `comment` says whether the text starts inside a comment. -/
def collectFrom (verbose : Bool) (p : Char → Bool) (comment : Bool) : Text → Text × Text
  | [] => ([], [])
  | c :: rest =>
    if comment then collectFrom verbose p (c != '\n') rest
    else if verbose && isSpace c then collectFrom verbose p false rest
    else if verbose && c == '#' then collectFrom verbose p true rest
    else if p c then
      let (taken, left) := collectFrom verbose p false rest
      (c :: taken, left)
    else ([], c :: rest)

/-- Reads characters that satisfy `p`, as `collectFrom` does outside a comment. -/
def collect (verbose : Bool) (p : Char → Bool) (t : Text) : Text × Text :=
  collectFrom verbose p false t

/-- The character that a hyphen inside a bracketed class is followed by, blanks and the sign of one
comment being passed over where the verbose flag allows them. -/
def peekPastBlanks (verbose : Bool) (t : Text) : Option Char :=
  if verbose then
    let next := match t.dropWhile isSpace with
      | '#' :: rest => rest.dropWhile isSpace
      | rest => rest
    next.head? <|> t.head?
  else t.head?

end PathRouting.Regex
