/-! # Replies

What a command answers with: a text, cards for search results, further messages, and whether only the
asking user may see it.
-/

namespace TabletopBot

structure Embed where
  title : String
  url : String
  description : String
  color : Nat
deriving DecidableEq, Repr

/-- The accent colour of cards, a teal. -/
def Embed.accent : Nat := 0x008080

def Embed.render (embed : Embed) : String :=
  let head := "# " ++ embed.title ++ "\n" ++ embed.url
  if embed.description.isEmpty then head else head ++ "\n" ++ embed.description

structure Reply where
  content : String
  embeds : List Embed := []
  followups : List String := []
  ephemeral : Bool := false
deriving DecidableEq, Repr

namespace Reply

def ofText (content : String) : Reply := { content }

/-- A text that only the asking user sees. -/
def ofHint (content : String) : Reply := { content, ephemeral := true }

/-- The first message as the reply, the others behind it. -/
def ofMessages : List String → Reply
  | [] => { content := "" }
  | content :: followups => { content, followups }

/-- The parts of a reply that are shown: the text if there is one, the cards, the further messages. -/
def sections (reply : Reply) : List String :=
  (if reply.content.isEmpty then [] else [reply.content]) ++ reply.embeds.map Embed.render ++
    reply.followups

/-- The reply as plain text, with an empty line between its parts. -/
def render (reply : Reply) : String := "\n\n".intercalate reply.sections

/-- Every message that the reply sends: its content and the further messages. -/
def messages (reply : Reply) : List String := reply.content :: reply.followups

end Reply

end TabletopBot
