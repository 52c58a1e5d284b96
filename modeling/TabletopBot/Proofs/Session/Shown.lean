import TabletopBot.Proofs.Resources.Loading
import TabletopBot.Proofs.Session
import Mathlib.Data.List.Forall2

/-! # What a session shows

Every text that a session shows by chance was written in a resource file. Loading refuses a file without
texts to choose from, so every choice has an item, and its draw has the number of items as its size. This
is said of the files, not of the tables that were made of them (`session_shows_written`).
-/

namespace TabletopBot.Session

open Dice (Die PhraseBook RolledDie Throw)
open Resources (Holds Loaded)

/-- The tables that texts are chosen from. -/
inductive Table where
  | phrases (critical : Dice.Critical)
  | forecasts
  | announcements
deriving DecidableEq, Repr

/-- The texts of a table in the order in which they are chosen from, as the files have them. -/
inductive Lists (files : ResourceFiles) : Table → List String → Prop
  | success {success failure : List String} :
      Holds Resources.phraseLists.decoder (files .criticalPhrases) (success, failure) →
      Lists files (.phrases .success) success
  | failure {success failure : List String} :
      Holds Resources.phraseLists.decoder (files .criticalPhrases) (success, failure) →
      Lists files (.phrases .failure) failure
  | forecasts {entries : List (String × String)} :
      Holds (Json.pairs Json.string) (files .forecasts) entries →
      Lists files .forecasts ((MessagePool.sortedEntries entries).map (·.2))
  | announcements {entries : List (String × String)} :
      Holds (Json.pairs Json.string) (files .announcements) entries →
      Lists files .announcements ((MessagePool.sortedEntries entries).map (·.2))

/-- A text stands in the file of a table: in the list of its kind, or behind some key. -/
inductive Written (files : ResourceFiles) : Table → String → Prop
  | success {success failure : List String} {text : String} :
      Holds Resources.phraseLists.decoder (files .criticalPhrases) (success, failure) →
      text ∈ success → Written files (.phrases .success) text
  | failure {success failure : List String} {text : String} :
      Holds Resources.phraseLists.decoder (files .criticalPhrases) (success, failure) →
      text ∈ failure → Written files (.phrases .failure) text
  | forecast {entries : List (String × String)} {key text : String} :
      Holds (Json.pairs Json.string) (files .forecasts) entries →
      (key, text) ∈ entries → Written files .forecasts text
  | announcement {entries : List (String × String)} {key text : String} :
      Holds (Json.pairs Json.string) (files .announcements) entries →
      (key, text) ∈ entries → Written files .announcements text

/-- A text is chosen from a table with one draw, which asks for an index into a list that has one. -/
structure Chosen (files : ResourceFiles) (table : Table) (draw : Answered) (text : String) : Prop where
  written : Written files table text
  drawn : ∃ items, Lists files table items ∧ 1 ≤ items.length ∧
    ∃ index : Fin items.length, draw = .pick items.length index ∧ items[index.val]? = some text

variable {files : ResourceFiles}

theorem Chosen.exists_of_mem {table : Table} {draw asked : Answered} {text : String}
    (chosen : Chosen files table draw text) (among : asked ∈ [draw]) :
    ∃ table text, Chosen files table asked text := by
  rw [List.mem_singleton.mp among]
  exact ⟨table, text, chosen⟩

theorem exists_key_of_mem {entries : List (String × String)} {text : String}
    (member : text ∈ (MessagePool.sortedEntries entries).map (·.2)) : ∃ key, (key, text) ∈ entries := by
  obtain ⟨⟨key, _⟩, listed, rfl⟩ := List.mem_map.mp member
  exact ⟨key, MessagePool.mem_of_mem_sortedEntries listed⟩

theorem Lists.written {table : Table} {items : List String} (lists : Lists files table items)
    {text : String} (member : text ∈ items) : Written files table text := by
  cases lists with
  | success holds => exact .success holds member
  | failure holds => exact .failure holds member
  | forecasts holds =>
    obtain ⟨key, entry⟩ := exists_key_of_mem member
    exact .forecast holds entry
  | announcements holds =>
    obtain ⟨key, entry⟩ := exists_key_of_mem member
    exact .announcement holds entry

theorem Lists.chosen {table : Table} {items : List String} (lists : Lists files table items)
    (index : Fin items.length) : Chosen files table (.pick items.length index) items[index] where
  written := lists.written (List.getElem_mem index.isLt)
  drawn := ⟨items, lists, index.pos, index, rfl,
    List.getElem?_eq_getElem index.isLt⟩

section

variable {settings : SongSettings} {resources : Resources}

theorem lists_phrases (loaded : Loaded files settings resources) (critical : Dice.Critical) :
    Lists files (.phrases critical) (resources.phrases.phrases critical) := by
  cases critical with
  | success => exact .success loaded.phrases
  | failure => exact .failure loaded.phrases

theorem lists_forecasts (loaded : Loaded files settings resources) :
    Lists files .forecasts resources.forecasts.messages := by
  obtain ⟨entries, holds, messages⟩ := loaded.forecasts
  rw [messages]
  exact .forecasts holds

theorem lists_announcements (loaded : Loaded files settings resources) :
    Lists files .announcements resources.announcements.messages := by
  obtain ⟨entries, holds, messages⟩ := loaded.announcements
  rw [messages]
  exact .announcements holds

end

/-- A die as a roll shows it: its face, the draws for it behind that of the face, and its lines. -/
structure ShownDie where
  face : Nat
  draws : List Answered
  lines : List String

/-- Critical faces of a d20 are shown with a phrase from the file, chosen with one draw. -/
inductive DieShown (files : ResourceFiles) (throw : Throw) (separator link : String) : ShownDie → Prop
  | success {draw : Answered} {phrase : String} : throw.die = .d20 →
      Chosen files (.phrases .success) draw phrase →
      DieShown files throw separator link ⟨20, [draw],
        [separator ++ ("**" ++ phrase ++ "** Natural ") ++ Dice.bodyText throw.modifier 20, link]⟩
  | failure {draw : Answered} {phrase : String} : throw.die = .d20 →
      Chosen files (.phrases .failure) draw phrase →
      DieShown files throw separator link ⟨1, [draw],
        [separator ++ ("**" ++ phrase ++ "** Natural ") ++ Dice.bodyText throw.modifier 1]⟩
  | ordinary {face : Nat} : (throw.die = .d20 → face ≠ 20 ∧ face ≠ 1) →
      DieShown files throw separator link
        ⟨face, [], [separator ++ Dice.bodyText throw.modifier face]⟩

/-- What a request is answered with and drawn for, where texts that are chosen come from the files. -/
inductive Shows (files : ResourceFiles) (resources : Resources) : Step → Exchange → Prop
  | refused {text user : String} {fault : Dice.ThrowFault} : Throw.parse text = .error fault →
      Shows files resources (.roll text user) ⟨⟨Command.throwHint fault, true⟩, []⟩
  | roll {text user : String} {throw : Throw} {dice : List ShownDie} :
      Throw.parse text = .ok throw → dice.length = throw.count →
      (∀ die ∈ dice, DieShown files throw (if throw.count > 1 then Dice.batchSeparator else "")
        (resources.songs.linkFor user) die) →
      Shows files resources (.roll text user) ⟨⟨"\n".intercalate (dice.flatMap (·.lines)), false⟩,
        dice.map (fun die => .face throw.die.sides die.face) ++ dice.flatMap (·.draws)⟩
  | weather {draw : Answered} {text : String} : Chosen files .forecasts draw text →
      Shows files resources .weather ⟨⟨text, false⟩, [draw]⟩
  | newPage {author : String} {url : Option String} {draw : Answered} {text : String} :
      Chosen files .announcements draw text →
      Shows files resources (.newPage author url)
        ⟨⟨Webhook.announcementText text author url, false⟩, [draw]⟩
  | phrase {critical : Dice.Critical} {draw : Answered} {text : String} :
      Chosen files (.phrases critical) draw text →
      Shows files resources (.phrase critical) ⟨⟨text, false⟩, [draw]⟩
  | link (user : String) :
      Shows files resources (.link user) ⟨⟨resources.songs.linkFor user, false⟩, []⟩

section

variable {settings : SongSettings} {resources : Resources} {throw : Throw}

/-- A rolled die together with its draws and lines. -/
def shownDie (separator link : String) (rolled : RolledDie throw.die resources.phrases) : ShownDie :=
  ⟨rolled.face, rolled.phraseDraw?.toList, rolled.lines separator throw.modifier link⟩

theorem dieShown (loaded : Loaded files settings resources) (separator link : String)
    (rolled : RolledDie throw.die resources.phrases) :
    DieShown files throw separator link (shownDie separator link rolled) := by
  cases rolled with
  | twenty isD20 index => exact .success isD20 ((lists_phrases loaded .success).chosen index)
  | one isD20 index => exact .failure isD20 ((lists_phrases loaded .failure).chosen index)
  | ordinary face uncritical => exact .ordinary uncritical

end

section

variable {σ : Type} [Chance σ] {settings : SongSettings} {resources : Resources}

/-- The report of a throw shows every die with its own draws. -/
theorem shows_roll (loaded : Loaded files settings resources) {text : String} {throw : Throw}
    (accepted : Throw.parse text = .ok throw) (user : String)
    {rolled : List (RolledDie throw.die resources.phrases)} (count : rolled.length = throw.count) :
    let separator := if throw.count > 1 then Dice.batchSeparator else ""
    let lines := rolled.flatMap (·.lines separator throw.modifier (resources.songs.linkFor user))
    Shows files resources (.roll text user) ⟨⟨"\n".intercalate lines, false⟩,
      rolled.map (fun die => .face throw.die.sides die.face) ++ rolled.filterMap (·.phraseDraw?)⟩ := by
  intro separator lines
  have dice : ∀ die ∈ rolled.map (shownDie separator (resources.songs.linkFor user)),
      DieShown files throw separator (resources.songs.linkFor user) die := by
    intro die member
    obtain ⟨rolledDie, _, rfl⟩ := List.mem_map.mp member
    exact dieShown loaded separator _ rolledDie
  have shows := Shows.roll accepted (by rw [List.length_map, count]) dice
  rw [List.map_map, List.flatMap_map, List.flatMap_map] at shows
  rw [List.filterMap_eq_flatMap_toList]
  exact shows

theorem exists_roll_shows (loaded : Loaded files settings resources) {text : String} {throw : Throw}
    (accepted : Throw.parse text = .ok throw) (user : String) (source : σ) :
    ∃ given last draws, Yields (Session.answer resources (.roll text user))
        (Session.answer resources (.roll text user)) source given last draws ∧
      Shows files resources (.roll text user) ⟨given, draws⟩ := by
  obtain ⟨rolled, last, count, replied⟩ := exists_rolled_yields accepted resources user source
  exact ⟨_, last, _, replied.map Answer.ofReply, shows_roll loaded accepted user count⟩

/-- Whatever is asked, what is shown by chance was written in a file. -/
theorem exists_answer_shows (loaded : Loaded files settings resources) (step : Step) (source : σ) :
    ∃ given last draws,
      Yields (Session.answer resources step) (Session.answer resources step) source given last draws ∧
      Shows files resources step ⟨given, draws⟩ := by
  cases step with
  | roll text user =>
    cases read : Throw.parse text with
    | error fault =>
      simp only [Session.answer]
      rw [roll_of_refused read, roll_of_refused read]
      exact ⟨_, source, [], .pure _ source, .refused read⟩
    | ok throw => exact exists_roll_shows loaded read user source
  | weather =>
    have chosen := Yields.drawItem resources.forecasts.messages resources.forecasts.nonempty source
    exact ⟨_, _, _, (chosen.map Reply.ofText).map Answer.ofReply,
      .weather ((lists_forecasts loaded).chosen _)⟩
  | newPage author url =>
    have chosen :=
      Yields.drawItem resources.announcements.messages resources.announcements.nonempty source
    exact ⟨_, _, _, (chosen.map (Webhook.announcementText · author url)).map (Answer.mk · false),
      .newPage ((lists_announcements loaded).chosen _)⟩
  | phrase critical =>
    have chosen := Yields.drawItem (resources.phrases.phrases critical)
      (resources.phrases.phrases_nonempty critical) source
    exact ⟨_, _, _, chosen.map (Answer.mk · false), .phrase ((lists_phrases loaded critical).chosen _)⟩
  | link user => exact ⟨_, _, _, .pure _ source, .link user⟩

/-- The draws of a request that ask for an index ask for one into a list that texts are chosen from. -/
theorem Shows.pick {step : Step} {exchange : Exchange} (shows : Shows files resources step exchange)
    {size : Nat} {index : Fin size} (asked : .pick size index ∈ exchange.draws) :
    ∃ table text, Chosen files table (.pick size index) text := by
  cases shows with
  | refused => cases asked
  | roll _ _ dice =>
    rcases List.mem_append.mp asked with face | phrase
    · -- Faces are no picks.
      obtain ⟨die, _, other⟩ := List.mem_map.mp face
      cases other
    · obtain ⟨die, member, drawn⟩ := List.mem_flatMap.mp phrase
      cases dice die member with
      | success _ chosen => exact chosen.exists_of_mem drawn
      | failure _ chosen => exact chosen.exists_of_mem drawn
      | ordinary => cases drawn
  | weather chosen => exact chosen.exists_of_mem asked
  | newPage chosen => exact chosen.exists_of_mem asked
  | phrase chosen => exact chosen.exists_of_mem asked
  | link => cases asked

theorem exchanges_show (loaded : Loaded files settings resources) (steps : List Step) (source : σ) :
    List.Forall₂ (Shows files resources) steps (exchanges resources steps source).1 := by
  induction steps generalizing source with
  | nil => exact .nil
  | cons step steps ih =>
    obtain ⟨given, middle, draws, first, shows⟩ := exists_answer_shows loaded step source
    rw [exchanges_cons first]
    exact .cons shows (ih middle)

/-- A session with loaded tables runs as its exchanges say, and each of them shows what was written in the
files: phrases, forecasts and announcements are chosen with one draw each, from the list that the file
has, at an index of this list. No other index is ever asked for, and every list asked for has an item. -/
theorem session_shows_written (success : Resources.load files settings = .ok resources)
    (steps : List Step) (source : σ) :
    Yields (run resources steps) (run resources steps) source
      ((exchanges resources steps source).1.map (·.answer)) (exchanges resources steps source).2
      ((exchanges resources steps source).1.flatMap (·.draws)) ∧
    List.Forall₂ (Shows files resources) steps (exchanges resources steps source).1 ∧
    ∀ exchange ∈ (exchanges resources steps source).1, ∀ size index,
      Answered.pick size index ∈ exchange.draws →
        1 ≤ size ∧ ∃ table items, Lists files table items ∧ size = items.length := by
  have shown := exchanges_show (Resources.loaded_of_load success) steps source
  refine ⟨run_yields resources steps source, shown, ?_⟩
  intro exchange member size index asked
  obtain ⟨place, small, rfl⟩ := List.getElem_of_mem member
  have shows := shown.get (shown.length_eq ▸ small) small
  obtain ⟨table, text, chosen⟩ := shows.pick asked
  obtain ⟨items, lists, nonempty, other, same, _⟩ := chosen.drawn
  cases same
  exact ⟨nonempty, table, items, lists, rfl⟩

end

/-- A roll of two d20, a forecast and a phrase from small files. -/
theorem session_shows_small_files :
    let files : ResourceFiles := fun
      | .criticalPhrases => some (Text.Utf8.encode
        "\x7b\"success\": [\"Yes!\", \"Glorious!\"], \"failure\": [\"Ouch.\"]\x7d".toList)
      | .criticalSongs => some (Text.Utf8.encode "\x7b\x7d".toList)
      | .forecasts => some (Text.Utf8.encode "\x7b\"wet\": \"Rain.\", \"dry\": \"Sun.\"\x7d".toList)
      | .announcements => some (Text.Utf8.encode "\x7b\"page\": \"News!\"\x7d".toList)
    let steps : List Step := [.roll "2d20" "sasha", .weather, .phrase .failure]
    let source : Script := { faces := [20, 1], picks := [7, 3] }
    ∃ resources, Resources.load files {} = .ok resources ∧
      List.Forall₂ (Shows files resources) steps (exchanges resources steps source).1 ∧
      ∀ exchange ∈ (exchanges resources steps source).1, ∀ size index,
        Answered.pick size index ∈ exchange.draws → 1 ≤ size := by
  have phrases : Json.decode Resources.phraseLists.decoder (Text.Utf8.encode
      "\x7b\"success\": [\"Yes!\", \"Glorious!\"], \"failure\": [\"Ouch.\"]\x7d".toList) =
      .ok (["Yes!", "Glorious!"], ["Ouch."]) :=
    eq_ok_of_toOption (by decide +kernel)
  have songs : Json.decode (Json.pairs Json.string) (Text.Utf8.encode "\x7b\x7d".toList) = .ok [] :=
    eq_ok_of_toOption (by decide +kernel)
  have forecasts : Json.decode (Json.pairs Json.string) (Text.Utf8.encode
      "\x7b\"wet\": \"Rain.\", \"dry\": \"Sun.\"\x7d".toList) =
      .ok [("wet", "Rain."), ("dry", "Sun.")] :=
    eq_ok_of_toOption (by decide +kernel)
  have announcements : Json.decode (Json.pairs Json.string) (Text.Utf8.encode
      "\x7b\"page\": \"News!\"\x7d".toList) = .ok [("page", "News!")] :=
    eq_ok_of_toOption (by decide +kernel)
  intro files steps source
  have usable : ∀ file, Resources.Usable file (files file) := by
    intro file
    cases file with
    | criticalPhrases => exact ⟨_, _, ⟨_, rfl, phrases⟩, by decide, by decide⟩
    | criticalSongs => exact ⟨_, _, rfl, songs⟩
    | forecasts => exact ⟨_, ⟨_, rfl, forecasts⟩, by decide⟩
    | announcements => exact ⟨_, ⟨_, rfl, announcements⟩, by decide⟩
  obtain ⟨resources, success⟩ := Resources.exists_load_eq_ok_iff.mpr usable
  obtain ⟨_, shown, asked⟩ := session_shows_written success steps source
  refine ⟨resources, success, shown, ?_⟩
  intro exchange member size index pick
  exact (asked exchange member size index pick).1

end TabletopBot.Session
