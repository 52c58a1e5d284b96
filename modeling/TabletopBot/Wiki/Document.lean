import TabletopBot.Text.Blank
import TabletopBot.Text.Decimal
import TabletopBot.Wiki.Results

/-! # Documents for the language model

A wiki page is handed to the language model as a document: title, address, preview and page text, the
last two cut to a limit. Several documents go into one prompt, numbered from one.
-/

namespace TabletopBot.Wiki.Document

def previewLimit : Nat := 400

def bodyLimit : Nat := 2500

/-- The first characters of a text up to a limit, with an ellipsis where something was cut off. -/
def truncate (limit : Nat) (chars : List Char) : List Char :=
  if chars.length ≤ limit then chars else chars.take limit ++ ['…']

def build (hit : Hit) (html : String) : String :=
  let head := "Title: " ++ hit.name ++ "\nURL: " ++ hit.url
  let preview :=
    if Text.Blank hit.preview.toList then ""
    else "\nPreview: " ++ String.ofList (truncate previewLimit hit.preview.toList)
  head ++ preview ++ "\n\n" ++ String.ofList (truncate bodyLimit html.toList)

def separator : String := "\n\n---\n\n"

def numbered (first : Nat) : List String → List String
  | [] => []
  | document :: documents =>
    ("Document " ++ String.ofList (Text.decimalDigits first) ++ ":\n" ++ document) ::
      numbered (first + 1) documents

def prompt (question : String) (documents : List String) : String :=
  "User Question: " ++ question ++ "\n\nContext for answering your query: " ++
    separator.intercalate (numbered 1 documents)

end TabletopBot.Wiki.Document
