import TabletopBot.Command.Ask
import TabletopBot.Command.Roll

/-! # The bot

The bot holds the resource tables and the settings of the services it asks, and answers one command at a
time. Chance and the network are threaded through side by side; no command uses both.
-/

namespace TabletopBot

/-- A command with its argument. -/
inductive Invocation where
  | roll (dice : String)
  | search (query : String)
  | weather
  | help
  | chat (question : String)
  | ask (question : String)
deriving DecidableEq, Repr

def Invocation.name : Invocation → String
  | .roll _ => "roll"
  | .search _ => "search"
  | .weather => "weather"
  | .help => "help"
  | .chat _ => "chat"
  | .ask _ => "ask"

structure Bot where
  resources : Resources
  wiki : WikiSettings
  chat : ChatSettings

structure Surroundings (σ : Type) where
  chance : σ
  network : Http.Network

namespace Surroundings

variable {σ α : Type}

def withChance (action : StateM σ α) : StateM (Surroundings σ) α := fun surroundings =>
  let (value, chance) := action.run surroundings.chance
  (value, { surroundings with chance })

def withNetwork (action : StateM Http.Network α) : StateM (Surroundings σ) α := fun surroundings =>
  let (value, network) := action.run surroundings.network
  (value, { surroundings with network })

end Surroundings

namespace Bot

def handle {σ : Type} [Chance σ] [Http.AddressRules] (bot : Bot) (invocation : Invocation) (user : String) :
    StateM (Surroundings σ) Reply :=
  match invocation with
  | .roll dice => Surroundings.withChance (Command.roll bot.resources dice user)
  | .search query => Surroundings.withNetwork (Command.search bot.wiki query)
  | .weather => Surroundings.withChance (Command.weather bot.resources)
  | .help => pure Command.help
  | .chat question => Surroundings.withNetwork (Command.chat bot.chat question)
  | .ask question => Surroundings.withNetwork (Command.ask bot.wiki bot.chat question)

def serve {σ : Type} [Chance σ] [Http.AddressRules] (bot : Bot) :
    List (Invocation × String) → StateM (Surroundings σ) (List Reply)
  | [] => pure []
  | (invocation, user) :: commands => do
    let reply ← bot.handle invocation user
    let replies ← bot.serve commands
    pure (reply :: replies)

end Bot

end TabletopBot
