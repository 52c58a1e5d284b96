import TabletopBot.Resources.Pool

/-! # Announcing new pages

The message that tells the group about a new wiki page: an announcement chosen by chance, the author,
and the address of the page on a line of its own if it is known.
-/

namespace TabletopBot.Webhook

def announcementText (announcement author : String) (url : Option String) : String :=
  let message := announcement ++ " It's author is **" ++ author ++ "**!"
  match url with
  | some url => message ++ "\n" ++ url
  | none => message

def announce {σ : Type} [Chance σ] (pool : MessagePool) (author : String) (url : Option String) :
    StateM σ String := do
  let announcement ← pool.choose
  pure (announcementText announcement author url)

end TabletopBot.Webhook
