import TabletopBot.Server
import TabletopBot.Session
import TabletopBot.Resources.Shipped
import TabletopBot.Proofs.Dice.ThrowText
import TabletopBot.Proofs.Dice.Report
import TabletopBot.Proofs.Command.Ask
import TabletopBot.Proofs.Dice.RoundTrip
import TabletopBot.Proofs.Session
import TabletopBot.Proofs.Webhook.Handling
import TabletopBot.Proofs.Server.Steps
import TabletopBot.Proofs.Server.Delivery
import TabletopBot.Proofs.Server.Progress
import TabletopBot.Proofs.Resources.Loading
import TabletopBot.Proofs.Json.ObjectText
import TabletopBot.Proofs.Resources.MessageFiles
import TabletopBot.Proofs.Http.Agreement
import TabletopBot.Proofs.Session.Shown
import TabletopBot.Proofs.Bot.Credentials
import TabletopBot.Proofs.Webhook.EventText
import TabletopBot.Proofs.Config.Loading
import TabletopBot.Proofs.Bot.Lengths
import TabletopBot.Proofs.Wiki.Preview
import TabletopBot.Proofs.Message.BlankSlices
import TabletopBot.Proofs.Message.Fewest
import TabletopBot.Proofs.Dice.ReadBack
import TabletopBot.Proofs.Wiki.LineFolding
import TabletopBot.Proofs.Message.Display
import TabletopBot.Proofs.Http.Form
import TabletopBot.Proofs.Http.Address
import TabletopBot.Proofs.Wiki.SearchAddress
import TabletopBot.Proofs.Command.SameHits
import TabletopBot.Proofs.Dice.Faults
import TabletopBot.Proofs.Text.Quoted
import TabletopBot.Proofs.Command.ThrowHint
import TabletopBot.Proofs.Wiki.Prompt
