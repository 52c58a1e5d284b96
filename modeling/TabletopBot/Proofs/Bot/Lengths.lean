import TabletopBot.Bot
import TabletopBot.Proofs.Command.ThrowHint
import TabletopBot.Proofs.Dice.ReportLength
import TabletopBot.Proofs.Json.Record
import TabletopBot.Proofs.Message.Packing
import TabletopBot.Proofs.Wiki.Results

/-! # How long the messages of a reply are

Only what the language model makes of documents is split into messages of limited length. Everything else
goes out as one message: what the searches and the help say is short by itself, while a report, a hint, a
forecast, an answer about the rules or a question that is repeated can be of any length.
-/

namespace TabletopBot

open Dice (RolledDie Throw)

/-- Every message of a reply has at most the greatest length. -/
def Reply.Fits (reply : Reply) : Prop :=
  ∀ message ∈ reply.messages, message.length ≤ Message.maxLength

theorem Reply.fits_ofText {content : String} :
    (Reply.ofText content).Fits ↔ content.length ≤ Message.maxLength := by
  simp [Fits, messages, ofText]

theorem Reply.fits_ofHint {content : String} :
    (Reply.ofHint content).Fits ↔ content.length ≤ Message.maxLength := by
  simp [Fits, messages, ofHint]

theorem Reply.fits_ofMessages {contents : List String}
    (short : ∀ content ∈ contents, content.length ≤ Message.maxLength) :
    (Reply.ofMessages contents).Fits := by
  cases contents with
  | nil => exact fits_ofText.2 (Nat.zero_le _)
  | cons content followups => exact short

/-- Of two actions in turn the second one starts where the first has stopped. -/
theorem bind_run {σ α β : Type} (action : StateM σ α) (next : α → StateM σ β) (source : σ) :
    (action >>= next) source = next (action source).1 (action source).2 := rfl

theorem Surroundings.withChance_fst {σ α : Type} (action : StateM σ α) (surroundings : Surroundings σ) :
    (withChance action surroundings).1 = (action surroundings.chance).1 := rfl

theorem Surroundings.withNetwork_fst {σ α : Type} (action : StateM Http.Network α)
    (surroundings : Surroundings σ) :
    (withNetwork action surroundings).1 = (action surroundings.network).1 := rfl

namespace Wiki

/-- The number of matches in an answer to a search has 64 bits. -/
theorem total_lt_of_decode {bytes : List UInt8} {answer : Nat × List Item}
    (read : Json.decode answerRecord.decoder bytes = .ok answer) : answer.1 < UInt64.size := by
  obtain ⟨⟨value, rest⟩, decoded, ended⟩ := bind_eq_ok_iff.1 read
  have keeps : answerRecord.Keeps fun draft => ∀ total ∈ draft.total, total < UInt64.size := by
    intro field member draft next tokens rest holds fieldRead
    simp only [answerRecord, List.mem_cons, List.not_mem_nil, or_false] at member
    rcases member with rfl | rfl
    · obtain ⟨⟨total, left⟩, number, same⟩ := bind_eq_ok_iff.1 fieldRead
      cases same
      rintro _ ⟨⟩
      exact Json.natBelow_lt number
    · obtain ⟨⟨items, left⟩, -, same⟩ := bind_eq_ok_iff.1 fieldRead
      cases same
      exact holds
  obtain ⟨draft, holds, finished⟩ := Json.exists_draft_of_decoder keeps nofun decoded
  obtain ⟨total, known, finished⟩ := Option.bind_eq_some_iff.1 finished
  obtain ⟨items, -, finished⟩ := Option.bind_eq_some_iff.1 finished
  simp only at ended
  split at ended
  · cases ended
    cases finished
    exact holds total known
  · cases ended

theorem total_lt_of_search [Http.AddressRules] {settings : WikiSettings} {query : String} {network : Http.Network}
    {results : Results} (found : (search settings query network).1 = .ok results) :
    results.total < UInt64.size := by
  rw [search, bind_run] at found
  generalize (fetch settings (searchUrl? settings query) network).1 = fetched at found
  cases fetched with
  | error fault => cases found
  | ok body =>
    simp only at found
    cases read : Json.decode answerRecord.decoder body with
    | error problem =>
      rw [read] at found
      cases found
    | ok answer =>
      rw [read] at found
      cases found
      exact total_lt_of_decode read

/-- What is said about the results of a search is short, however many there are. -/
theorem fits_reply {results : Results} (bounded : results.total < UInt64.size) (pageSize : Nat) :
    (results.reply pageSize).Fits := by
  rw [Results.reply]
  split
  · exact Reply.fits_ofText.2 (by decide)
  · refine Reply.fits_ofText.2 ?_
    by_cases more : pageSize < results.total
    · have digits (value : Nat) (small : value < UInt64.size) :
          (Text.decimalDigits value).length ≤ 20 := by
        rw [← String.length_ofList]
        exact Dice.length_toString_nat_le (by decide) (Nat.lt_trans small (by decide))
      have first := digits (min results.hits.length pageSize) (by omega)
      have second := digits results.total bounded
      rw [Results.length_summary more, Message.maxLength]
      omega
    · rw [Results.summary_eq_empty (Nat.not_lt.1 more)]
      exact Nat.zero_le _

end Wiki

namespace Command

variable {σ : Type} [Chance σ]

theorem roll_fst (resources : Resources) (text user : String) (source : σ) :
    (roll resources text user source).1 =
      match (Dice.rollText text user resources.phrases resources.songs source).1 with
      | .ok report => Reply.ofText report.render
      | .error fault => Reply.ofHint (throwHint fault) := by
  rw [roll, bind_run]
  cases (Dice.rollText text user resources.phrases resources.songs source).1 <;> rfl

theorem weather_fst (resources : Resources) (source : σ) :
    (weather resources source).1 = Reply.ofText (resources.forecasts.choose source).1 := rfl

theorem search_fst [Http.AddressRules] (settings : WikiSettings) (query : String) (network : Http.Network) :
    (search settings query network).1 =
      match (Wiki.search settings query network).1 with
      | .ok results => results.reply settings.pageSize
      | .error _ => Reply.ofText fetchFailed := by
  rw [search, bind_run]
  cases (Wiki.search settings query network).1 <;> rfl

theorem chat_fst [Http.AddressRules] (settings : ChatSettings) (question : String) (network : Http.Network) :
    (chat settings question network).1 =
      match (Chat.askRules settings question network).1 with
      | .ok answer => Reply.ofText answer
      | .error _ => Reply.ofText chatFailed := by
  rw [chat, bind_run]
  cases (Chat.askRules settings question network).1 <;> rfl

theorem fits_help : help.Fits := by
  refine Reply.fits_ofText.2 ?_
  have length := @Dice.length_intercalate_add_one helpLines (by decide)
  have short : (helpLines.map (·.length + 1)).sum ≤ Message.maxLength := by decide
  omega

theorem fits_answerReply (answer : Except Chat.ChatFault String) : (answerReply answer).Fits := by
  unfold answerReply
  split
  · split
    · exact Reply.fits_ofText.2 (by decide)
    · exact Reply.fits_ofMessages fun _ member => (Message.length_of_mem_split member).2
  · exact Reply.fits_ofText.2 (by decide)
  · exact Reply.fits_ofText.2 (by decide)

/-- A question that nothing is found for is repeated, any other is answered from documents. -/
theorem ask_fst_cases [Http.AddressRules] (wiki : WikiSettings) (chat : ChatSettings)
    (question : String) (network : Http.Network) :
    (∀ results, (Wiki.search wiki question network).1 = .ok results → results.hits = []) ∧
        (ask wiki chat question network).1 = Reply.ofText (noKnowledge question) ∨
      (∃ results, (Wiki.search wiki question network).1 = .ok results ∧ results.hits ≠ []) ∧
        ∃ answer, (ask wiki chat question network).1 = answerReply answer := by
  rw [ask, bind_run]
  cases (Wiki.search wiki question network).1 with
  | error fault => exact .inl ⟨nofun, rfl⟩
  | ok results =>
    by_cases nothing : results.hits = []
    · simp only [if_pos nothing]
      exact .inl ⟨by rintro _ ⟨⟩; exact nothing, rfl⟩
    · simp only [if_neg nothing]
      exact .inr ⟨⟨results, rfl, nothing⟩, _, rfl⟩

end Command

namespace Bot

variable {σ : Type} [Chance σ]

/-- The length of a text that goes out in one message however long it is: what is said about a number
that cannot be read, the report of a roll, a forecast, an answer about the rules, and a question that
nothing is known about. -/
inductive Unsplit [Http.AddressRules] (bot : Bot) (user : String) (surroundings : Surroundings σ) : Invocation → Nat → Prop
  | hint {dice text : String} {part : Dice.NumberPart} :
      Throw.parse dice = .error (.badNumber part text) →
      Unsplit bot user surroundings (.roll dice) (part.label.length + (Text.quoted text).length + 37)
  | report {dice : String} {throw : Throw} {separator link : String}
      {rolled : List (RolledDie throw.die bot.resources.phrases)} :
      Throw.parse dice = .ok throw → rolled.length = throw.count →
      separator = (if throw.count > 1 then "---\n" else "") → link = bot.resources.songs.linkFor user →
      (Dice.rollText dice user bot.resources.phrases bot.resources.songs surroundings.chance).1 =
        .ok ⟨rolled.flatMap (·.lines separator throw.modifier link)⟩ →
      Unsplit bot user surroundings (.roll dice)
        ((rolled.map (·.size separator throw.modifier link)).sum - 1)
  | forecast : Unsplit bot user surroundings .weather
      (bot.resources.forecasts.choose surroundings.chance).1.length
  | answer {question answer : String} :
      (Chat.askRules bot.chat question surroundings.network).1 = .ok answer →
      Unsplit bot user surroundings (.chat question) answer.length
  | unknown {question : String} :
      (∀ results, (Wiki.search bot.wiki question surroundings.network).1 = .ok results →
        results.hits = []) →
      Unsplit bot user surroundings (.ask question) (question.length + 33)

variable (bot : Bot) (user : String) (surroundings : Surroundings σ)

theorem length_throwHint (part : Dice.NumberPart) (text : String) :
    (Command.throwHint (.badNumber part text)).length =
      part.label.length + (Text.quoted text).length + 37 := by
  have opening : "Invalid format or numbers! ".toList.length = 27 := by rfl
  have invalid : "invalid ".toList.length = 8 := by rfl
  rw [← String.length_toList, Dice.toList_throwHint_badNumber, List.length_append, List.length_append,
    List.length_append, List.length_cons, List.length_cons, opening, invalid, String.length_toList,
    String.length_toList]
  omega

theorem length_noKnowledge (question : String) :
    (Command.noKnowledge question).length = question.length + 33 := by
  unfold Command.noKnowledge
  have opening : "No knowledge base results for '".length = 31 := by decide
  have closing : "'.".length = 2 := by decide
  rw [String.length_append, String.length_append]
  omega

theorem ne_nil_of_count {throw : Throw} {book : Dice.PhraseBook}
    {rolled : List (RolledDie throw.die book)} (count : rolled.length = throw.count) : rolled ≠ [] := by
  rw [← List.length_pos_iff, count]
  exact throw.count_pos

theorem length_report_le_iff {throw : Throw} {book : Dice.PhraseBook} (separator link : String)
    {rolled : List (RolledDie throw.die book)} (count : rolled.length = throw.count) :
    (Dice.Report.render ⟨rolled.flatMap (·.lines separator throw.modifier link)⟩).length ≤
        Message.maxLength ↔
      (rolled.map (·.size separator throw.modifier link)).sum - 1 ≤ Message.maxLength := by
  have length := Dice.length_render_add_one separator throw.modifier link (ne_nil_of_count count)
  omega

theorem roll_fits_iff [Http.AddressRules] (dice : String) :
    (Command.roll bot.resources dice user surroundings.chance).1.Fits ↔
      ∀ length, Unsplit bot user surroundings (.roll dice) length → length ≤ Message.maxLength := by
  rw [Command.roll_fst]
  constructor
  · intro fits length unsplit
    cases unsplit with
    | @hint _ text part denied =>
      rw [Dice.rollText, denied] at fits
      rw [← length_throwHint]
      exact Reply.fits_ofHint.1 fits
    | report accepted count _ _ shown =>
      rw [shown] at fits
      exact (length_report_le_iff _ _ count).1 (Reply.fits_ofText.1 fits)
  · intro short
    cases accepted : Throw.parse dice with
    | error fault =>
      rw [Dice.rollText, accepted]
      refine Reply.fits_ofHint.2 ?_
      cases fault with
      | noDieMarker | unsupportedDie =>
        exact (by decide : Command.allowedDice.length ≤ Message.maxLength)
      | badNumber part text =>
        rw [length_throwHint]
        exact short _ (.hint accepted)
    | ok throw =>
      obtain ⟨rolled, last, count, ran⟩ := Dice.exists_rollText_yields accepted user
        bot.resources.phrases bot.resources.songs surroundings.chance
      have came := congrArg Prod.fst ran.plain_run
      rw [came]
      refine Reply.fits_ofText.2 ((length_report_le_iff _ _ count).2 ?_)
      exact short _ (.report accepted count rfl rfl came)

/-- The messages of a reply all fit exactly when each text that goes out unsplit does. -/
theorem handle_fits_iff [Http.AddressRules] (invocation : Invocation) :
    (bot.handle invocation user surroundings).1.Fits ↔
      ∀ length, Unsplit bot user surroundings invocation length → length ≤ Message.maxLength := by
  cases invocation with
  | roll dice =>
    rw [handle, Surroundings.withChance_fst]
    exact roll_fits_iff bot user surroundings dice
  | search query =>
    refine iff_of_true ?_ nofun
    rw [handle, Surroundings.withNetwork_fst, Command.search_fst]
    cases found : (Wiki.search bot.wiki query surroundings.network).1 with
    | error fault => exact Reply.fits_ofText.2 (by decide)
    | ok results => exact Wiki.fits_reply (Wiki.total_lt_of_search found) _
  | weather =>
    rw [handle, Surroundings.withChance_fst, Command.weather_fst]
    refine Reply.fits_ofText.trans ⟨?_, fun short => short _ .forecast⟩
    rintro short length ⟨⟩
    exact short
  | help => exact iff_of_true Command.fits_help nofun
  | chat question =>
    rw [handle, Surroundings.withNetwork_fst, Command.chat_fst]
    cases came : (Chat.askRules bot.chat question surroundings.network).1 with
    | error fault =>
      refine iff_of_true (Reply.fits_ofText.2 (by decide)) ?_
      intro length unsplit
      cases unsplit with
      | answer answered => cases came.symm.trans answered
    | ok answer =>
      refine Reply.fits_ofText.trans ⟨?_, fun short => short _ (.answer came)⟩
      intro short length unsplit
      cases unsplit with
      | answer answered =>
        cases came.symm.trans answered
        exact short
  | ask question =>
    rw [handle, Surroundings.withNetwork_fst]
    rcases Command.ask_fst_cases bot.wiki bot.chat question surroundings.network with
      ⟨nothing, reply⟩ | ⟨⟨results, found, hits⟩, answer, reply⟩
    · rw [reply, Reply.fits_ofText, length_noKnowledge]
      refine ⟨?_, fun short => short _ (.unknown nothing)⟩
      rintro short length ⟨⟩
      exact short
    · rw [reply]
      refine iff_of_true (Command.fits_answerReply answer) ?_
      intro length unsplit
      cases unsplit with
      | unknown nothing => exact absurd (nothing results found) hits

/-- Many dice with a long modifier make a report that does not fit, whatever faces are rolled. -/
theorem not_fits_roll_of_many [Http.AddressRules] {dice : String} {throw : Throw}
    (accepted : Throw.parse dice = .ok throw) (several : 1 < throw.count) (modified : throw.modifier ≠ 0)
    (many : Message.maxLength + 1 < (4 + (toString throw.modifier.natAbs).length + 9) * throw.count) :
    ¬ (bot.handle (.roll dice) user surroundings).1.Fits := by
  obtain ⟨rolled, last, count, ran⟩ := Dice.exists_rollText_yields accepted user
    bot.resources.phrases bot.resources.songs surroundings.chance
  have filled := Dice.le_length_render (if throw.count > 1 then Dice.batchSeparator else "") modified
    (bot.resources.songs.linkFor user) (ne_nil_of_count count)
  have separator : (if throw.count > 1 then Dice.batchSeparator else "").length = 4 := by
    rw [if_pos several]
    decide
  have came := congrArg Prod.fst ran.plain_run
  rw [handle, Surroundings.withChance_fst, Command.roll_fst, came, Reply.fits_ofText]
  rw [count, separator] at filled
  omega

/-- A hundred dice with a modifier of ten digits: more than 1900 characters in one message. -/
theorem handle_hundred_dice_unfit :
    let _ : Http.AddressRules := .plain
    ¬ (Bot.handle ⟨⟨⟨["Yes!"], ["Ouch."], by decide, by decide⟩, {}, ⟨["Rain."], by decide⟩,
        ⟨["News!"], by decide⟩⟩, {}, {}⟩
      (.roll "100d100-2147483647") "sasha"
      ⟨({ faces := [100], picks := [] } : Script), ⟨.nobody, []⟩⟩).1.Fits := by
  intro rules
  have accepted : Throw.parse "100d100-2147483647" =
      .ok ⟨100, .d100, -2147483647, by decide, by decide, by decide⟩ := by rfl
  exact not_fits_roll_of_many _ "sasha" _ accepted (by decide) (by decide) (by decide)

/-- Up to 51 dice without critical faces always fit, with any modifier. -/
theorem report_fits_of_few {throw : Throw} {book : Dice.PhraseBook} (ordinary : throw.die ≠ .d20)
    {rolled : List (RolledDie throw.die book)} (count : rolled.length = throw.count)
    (few : throw.count ≤ 51) (onDie : ∀ die ∈ rolled, die.face ≤ throw.die.sides) (link : String) :
    (Reply.ofText (Dice.Report.render ⟨rolled.flatMap
      (·.lines (if throw.count > 1 then "---\n" else "") throw.modifier link)⟩)).Fits := by
  have short : (if throw.count > 1 then "---\n" else "").length ≤ 4 := by split <;> decide
  have sides : throw.die.sides ≤ 100 := by cases throw.die <;> decide
  have length := Dice.length_render_le short throw.modifier_le link ordinary (ne_nil_of_count count)
    fun die member => (onDie die member).trans sides
  rw [Reply.fits_ofText, Message.maxLength]
  omega

end Bot

end TabletopBot
