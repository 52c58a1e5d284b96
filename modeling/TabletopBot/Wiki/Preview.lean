import TabletopBot.Text.Blank
import TabletopBot.Text.Pattern

/-! # Search previews

A search preview is HTML with the matches highlighted. Clean-up turns bold and underlined text into chat
markup, drops images, and folds stretches of empty lines into one line break.
-/

namespace TabletopBot.Wiki.Preview

open Text (Pattern)

def isNewline (char : Char) : Bool := char == '\n'

/-- Tags and the chat markup in their place, in the order in which they are replaced. -/
def markup : List (String × String) :=
  [("<strong>", "**"), ("</strong>", "**"), ("<u>", "__"), ("</u>", "__")]

def imageTag : Pattern := Pattern.literal "<img" ++ [.many (· != '>'), .one (· == '>')]

/-- Two or more line feeds in a row. -/
def newlineRun : Pattern := [.one isNewline, .one isNewline, .many isNewline]

/-- White space with two line feeds in it. -/
def blankLines : Pattern :=
  [.many Text.isBlank, .one isNewline, .many Text.isBlank, .one isNewline, .many Text.isBlank]

/-- Puts chat markup in the place of tags. -/
def replaceMarkup (chars : List Char) : List Char :=
  markup.foldl (fun text (tag, mark) => (Pattern.literal tag).replaceAll mark.toList text) chars

def dropImages (chars : List Char) : List Char := imageTag.replaceAll [] chars

/-- Folds stretches of empty lines. -/
def foldLines (chars : List Char) : List Char :=
  blankLines.replaceAll ['\n'] (newlineRun.replaceAll ['\n'] chars)

def clean (html : String) : String :=
  String.ofList (foldLines (dropImages (replaceMarkup html.toList)))

end TabletopBot.Wiki.Preview
