import TabletopBot.Reply
import TabletopBot.Text.Decimal

/-! # Search results

The hits of a wiki search and the reply that shows them as cards.
-/

namespace TabletopBot.Wiki

structure Hit where
  name : String
  url : String
  preview : String
deriving DecidableEq, Repr

/-- The hits that a search returned, and how many pages match in all. -/
structure Results where
  total : Nat
  hits : List Hit
deriving DecidableEq, Repr

private def shown (value : Nat) : String := String.ofList (Text.decimalDigits value)

namespace Results

def nothingFound : String := "No results found."

/-- Says how many of the matches are shown when there are more than fit on a page, else nothing. -/
def summary (results : Results) (pageSize : Nat) : String :=
  if results.total > pageSize then
    "Showing " ++ shown (min results.hits.length pageSize) ++ " of " ++ shown results.total ++
      " wiki results. Consider a more specific search!"
  else ""

def card (hit : Hit) : Embed :=
  { title := hit.name, url := hit.url, description := hit.preview, color := Embed.accent }

def reply (results : Results) (pageSize : Nat) : Reply :=
  if results.total = 0 ∨ results.hits = [] then Reply.ofText nothingFound
  else
    { content := results.summary pageSize
      embeds := (results.hits.take pageSize).map card }

end Results

end TabletopBot.Wiki
