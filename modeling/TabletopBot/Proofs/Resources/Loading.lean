import TabletopBot.Proofs.Checks
import TabletopBot.Proofs.Resources.Listing
import TabletopBot.Proofs.Text.Utf8
import TabletopBot.Resources.Tables

/-! # What loading decides

Every resource file is either usable or has exactly one fault, and which of them is a matter of this file
alone. Loading is the check of all files in reading order (`load_succeeds_or_first_fault`): it succeeds
where all of them are usable, and otherwise the first file that is not decides the fault.
-/

namespace TabletopBot

/-- The file that a fault is about. -/
def ResourceFault.file : ResourceFault → ResourceFile
  | .absent file => file
  | .notText file => file
  | .json file _ => file
  | .empty file => file

namespace Resources

open Dice (PhraseBook)

/-- The bytes are UTF-8 text, and the text is JSON that reads as the value. -/
def Holds {α : Type} (decoder : Json.Decoder α) (content : Option (List UInt8)) (value : α) : Prop :=
  ∃ chars, content = some (Text.Utf8.encode chars) ∧
    Json.decode decoder (Text.Utf8.encode chars) = .ok value

/-- What a file has to hold: phrases of both kinds, songs by user, or at least one message. -/
def Usable : ResourceFile → Option (List UInt8) → Prop
  | .criticalPhrases, content => ∃ success failure,
    Holds phraseLists.decoder content (success, failure) ∧ success ≠ [] ∧ failure ≠ []
  | .criticalSongs, content => ∃ entries, Holds (Json.pairs Json.string) content entries
  | .forecasts, content => ∃ entries, Holds (Json.pairs Json.string) content entries ∧ entries ≠ []
  | .announcements, content =>
    ∃ entries, Holds (Json.pairs Json.string) content entries ∧ entries ≠ []

/-- The text of a file does not read as what it should hold. That a list of phrases is empty is noticed
as soon as both lists have been read, before what is behind them. -/
inductive Unread : ResourceFile → List Char → Json.Problem → Prop
  | phrases {chars : List Char} {problem : Json.Problem} :
      phraseLists.decoder (Json.Token.scan (Text.Utf8.encode chars)) = .error problem →
      Unread .criticalPhrases chars problem
  | noPhrases {chars : List Char} {success failure : List String} {rest : List Json.Token} :
      phraseLists.decoder (Json.Token.scan (Text.Utf8.encode chars)) =
        .ok ((success, failure), rest) →
      success = [] ∨ failure = [] → Unread .criticalPhrases chars .mismatch
  | surplus {chars : List Char} {success failure : List String} {token : Json.Token}
      {rest : List Json.Token} :
      phraseLists.decoder (Json.Token.scan (Text.Utf8.encode chars)) =
        .ok ((success, failure), token :: rest) →
      success ≠ [] → failure ≠ [] → Unread .criticalPhrases chars .malformed
  | entries {file : ResourceFile} {chars : List Char} {problem : Json.Problem} :
      file ≠ .criticalPhrases →
      Json.decode (Json.pairs Json.string) (Text.Utf8.encode chars) = .error problem →
      Unread file chars problem

/-- What is wrong with a file. -/
inductive Faulty : ResourceFile → Option (List UInt8) → ResourceFault → Prop
  | absent (file : ResourceFile) : Faulty file none (.absent file)
  | notText {bytes : List UInt8} (file : ResourceFile) :
      (∀ chars, bytes ≠ Text.Utf8.encode chars) → Faulty file (some bytes) (.notText file)
  | unread {file : ResourceFile} {chars : List Char} {problem : Json.Problem} :
      Unread file chars problem →
      Faulty file (some (Text.Utf8.encode chars)) (.json file problem)
  | empty {file : ResourceFile} {chars : List Char} :
      file = .forecasts ∨ file = .announcements →
      Json.decode (Json.pairs Json.string) (Text.Utf8.encode chars) = .ok [] →
      Faulty file (some (Text.Utf8.encode chars)) (.empty file)

theorem Faulty.file_eq {file : ResourceFile} {content : Option (List UInt8)} {fault : ResourceFault}
    (faulty : Faulty file content fault) : fault.file = file := by
  cases faulty <;> rfl

theorem Faulty.file_of_empty {file other : ResourceFile} {content : Option (List UInt8)}
    (faulty : Faulty file content (.empty other)) : file = .forecasts ∨ file = .announcements := by
  cases faulty with
  | empty pool => exact pool

theorem Holds.eq {α : Type} {decoder : Json.Decoder α} {content : Option (List UInt8)} {value other : α}
    (holds : Holds decoder content value) (alsoHolds : Holds decoder content other) : value = other := by
  obtain ⟨chars, rfl, read⟩ := holds
  obtain ⟨others, same, alsoRead⟩ := alsoHolds
  rw [Option.some.inj same] at read
  exact Except.ok.inj (read.symm.trans alsoRead)

theorem content_cases (content : Option (List UInt8)) :
    content = none ∨ (∃ bytes, content = some bytes ∧ ∀ chars, bytes ≠ Text.Utf8.encode chars) ∨
      ∃ chars, content = some (Text.Utf8.encode chars) := by
  cases content with
  | none => exact .inl rfl
  | some bytes =>
    by_cases text : ∃ chars, bytes = Text.Utf8.encode chars
    · obtain ⟨chars, rfl⟩ := text
      exact .inr (.inr ⟨chars, rfl⟩)
    · exact .inr (.inl ⟨bytes, rfl, not_exists.mp text⟩)

section

variable {α : Type} {decoder : Json.Decoder α} {files : ResourceFiles} {file : ResourceFile}

theorem read_of_absent (content : files file = none) :
    read files file decoder = .error (.absent file) := by
  rw [read, content]

theorem read_of_notText {bytes : List UInt8} (content : files file = some bytes)
    (notText : ∀ chars, bytes ≠ Text.Utf8.encode chars) :
    read files file decoder = .error (.notText file) := by
  have unread : Text.Utf8.decode? bytes = none := by
    cases read : Text.Utf8.decode? bytes with
    | none => rfl
    | some chars => exact absurd (Text.Utf8.decode?_eq_some_iff.mp read) (notText chars)
  rw [read, content]
  simp only [unread]

theorem read_of_text {chars : List Char} (content : files file = some (Text.Utf8.encode chars)) :
    read files file decoder =
      (Json.decode decoder (Text.Utf8.encode chars)).mapError (.json file) := by
  rw [read, content]
  simp only [Text.Utf8.decode?_encode]
  cases Json.decode decoder (Text.Utf8.encode chars) with
  | ok value => rfl
  | error problem => rfl

/-- A file is read where it is text that holds a value. -/
theorem read_eq_ok_iff {value : α} :
    read files file decoder = .ok value ↔ Holds decoder (files file) value := by
  rcases content_cases (files file) with absent | ⟨bytes, content, notText⟩ | ⟨chars, content⟩
  · rw [read_of_absent absent, absent]
    exact ⟨nofun, nofun⟩
  · rw [read_of_notText content notText, content]
    refine ⟨nofun, ?_⟩
    rintro ⟨chars, same, _⟩
    exact absurd (Option.some.inj same) (notText chars)
  · rw [read_of_text content, content]
    constructor
    · intro success
      refine ⟨chars, rfl, ?_⟩
      cases decoded : Json.decode decoder (Text.Utf8.encode chars) with
      | ok other =>
        rw [decoded] at success
        exact congrArg _ (Except.ok.inj success)
      | error problem =>
        rw [decoded] at success
        cases success
    · rintro ⟨others, same, decoded⟩
      rw [Option.some.inj same, decoded]
      rfl

end

theorem decode_eq_ok_iff {α : Type} {decoder : Json.Decoder α} {bytes : List UInt8} {value : α} :
    Json.decode decoder bytes = .ok value ↔ decoder (Json.Token.scan bytes) = .ok (value, []) := by
  rw [Json.decode, bind_eq_ok_iff]
  constructor
  · rintro ⟨⟨other, rest⟩, read, finished⟩
    cases rest with
    | nil =>
      cases finished
      exact read
    | cons token rest => cases finished
  · intro read
    exact ⟨_, read, rfl⟩

theorem decode_eq_error_iff {α : Type} {decoder : Json.Decoder α} {bytes : List UInt8}
    {problem : Json.Problem} : Json.decode decoder bytes = .error problem ↔
      decoder (Json.Token.scan bytes) = .error problem ∨
        ∃ value token rest, decoder (Json.Token.scan bytes) = .ok (value, token :: rest) ∧
          problem = .malformed := by
  rw [Json.decode, bind_eq_error_iff]
  refine or_congr_right ?_
  constructor
  · rintro ⟨⟨value, rest⟩, read, surplus⟩
    cases rest with
    | nil => cases surplus
    | cons token rest =>
      cases surplus
      exact ⟨value, token, rest, read, rfl⟩
  · rintro ⟨value, token, rest, read, rfl⟩
    exact ⟨_, read, rfl⟩

theorem exists_ofLists_eq_error_iff {success failure : List String} :
    (∃ fault, PhraseBook.ofLists success failure = .error fault) ↔ success = [] ∨ failure = [] := by
  constructor
  · rintro ⟨fault, refused⟩
    by_contra both
    obtain ⟨someSuccess, someFailure⟩ := not_or.mp both
    have made : PhraseBook.ofLists success failure = .ok
        ⟨success, failure, List.length_pos_iff.mpr someSuccess, List.length_pos_iff.mpr someFailure⟩ :=
      PhraseBook.ofLists_eq_ok_iff.mpr ⟨rfl, rfl⟩
    rw [refused] at made
    cases made
  · intro empty
    cases made : PhraseBook.ofLists success failure with
    | error fault => exact ⟨fault, rfl⟩
    | ok book =>
      obtain ⟨rfl, rfl⟩ := PhraseBook.ofLists_eq_ok_iff.mp made
      rcases empty with nothing | nothing
      · exact absurd nothing (List.length_pos_iff.mp book.success_nonempty)
      · exact absurd nothing (List.length_pos_iff.mp book.failure_nonempty)

section

variable {tokens rest : List Json.Token}

theorem phraseBook_eq_ok_iff {book : PhraseBook} :
    phraseBook tokens = .ok (book, rest) ↔
      phraseLists.decoder tokens = .ok ((book.success, book.failure), rest) := by
  rw [phraseBook, bind_eq_ok_iff]
  constructor
  · rintro ⟨⟨⟨success, failure⟩, behind⟩, read, made⟩
    simp only at made
    split at made
    · next other lists =>
      cases made
      obtain ⟨rfl, rfl⟩ := PhraseBook.ofLists_eq_ok_iff.mp lists
      exact read
    · cases made
  · intro read
    refine ⟨_, read, ?_⟩
    simp only [PhraseBook.ofLists_eq_ok_iff.mpr ⟨rfl, rfl⟩]

theorem phraseBook_eq_error_iff {problem : Json.Problem} :
    phraseBook tokens = .error problem ↔ phraseLists.decoder tokens = .error problem ∨
      ∃ success failure rest, phraseLists.decoder tokens = .ok ((success, failure), rest) ∧
        (success = [] ∨ failure = []) ∧ problem = .mismatch := by
  rw [phraseBook, bind_eq_error_iff]
  refine or_congr_right ?_
  constructor
  · rintro ⟨⟨⟨success, failure⟩, rest⟩, read, refused⟩
    simp only at refused
    split at refused
    · cases refused
    · next fault lists =>
      cases refused
      exact ⟨success, failure, rest, read, exists_ofLists_eq_error_iff.mp ⟨fault, lists⟩, rfl⟩
  · rintro ⟨success, failure, rest, read, empty, rfl⟩
    obtain ⟨fault, lists⟩ := exists_ofLists_eq_error_iff.mpr empty
    refine ⟨_, read, ?_⟩
    simp only [lists]

end

/-- The phrases of a book are the two lists that are written down. -/
theorem decode_phraseBook_eq_ok_iff {bytes : List UInt8} {book : PhraseBook} :
    Json.decode phraseBook bytes = .ok book ↔
      Json.decode phraseLists.decoder bytes = .ok (book.success, book.failure) := by
  rw [decode_eq_ok_iff, phraseBook_eq_ok_iff, decode_eq_ok_iff]

theorem decode_phraseBook_eq_error_iff {chars : List Char} {problem : Json.Problem} :
    Json.decode phraseBook (Text.Utf8.encode chars) = .error problem ↔
      Unread .criticalPhrases chars problem := by
  rw [decode_eq_error_iff, phraseBook_eq_error_iff]
  constructor
  · rintro ((unread | ⟨success, failure, rest, read, empty, rfl⟩) | ⟨book, token, rest, read, rfl⟩)
    · exact .phrases unread
    · exact .noPhrases read empty
    · exact .surplus (phraseBook_eq_ok_iff.mp read) (List.length_pos_iff.mp book.success_nonempty)
        (List.length_pos_iff.mp book.failure_nonempty)
  · intro unread
    cases unread with
    | phrases unread => exact .inl (.inl unread)
    | noPhrases read empty => exact .inl (.inr ⟨_, _, _, read, empty, rfl⟩)
    | surplus read someSuccess someFailure =>
      refine .inr ⟨⟨_, _, List.length_pos_iff.mpr someSuccess, List.length_pos_iff.mpr someFailure⟩,
        _, _, phraseBook_eq_ok_iff.mpr read, rfl⟩
    | entries other => exact absurd rfl other

theorem decode_pairs_eq_error_iff {file : ResourceFile} (other : file ≠ .criticalPhrases)
    {chars : List Char} {problem : Json.Problem} :
    Json.decode (Json.pairs Json.string) (Text.Utf8.encode chars) = .error problem ↔
      Unread file chars problem := by
  constructor
  · exact .entries other
  · intro unread
    cases unread with
    | entries _ unread => exact unread
    | phrases => exact absurd rfl other
    | noPhrases => exact absurd rfl other
    | surplus => exact absurd rfl other

section

variable {files : ResourceFiles} {file : ResourceFile} {fault : ResourceFault}

/-- A file cannot be read where it is faulty in another way than holding no messages. -/
theorem read_eq_error_iff {α : Type} {decoder : Json.Decoder α}
    (unread : ∀ chars problem,
      Json.decode decoder (Text.Utf8.encode chars) = .error problem ↔ Unread file chars problem) :
    read files file decoder = .error fault ↔
      Faulty file (files file) fault ∧ fault ≠ .empty file := by
  rcases content_cases (files file) with absent | ⟨bytes, content, notText⟩ | ⟨chars, content⟩
  · rw [read_of_absent absent, absent]
    constructor
    · rintro ⟨⟩
      exact ⟨.absent file, nofun⟩
    · rintro ⟨⟨⟩, _⟩
      rfl
  · rw [read_of_notText content notText, content]
    constructor
    · rintro ⟨⟩
      exact ⟨.notText file notText, nofun⟩
    · rintro ⟨faulty, _⟩
      cases faulty with
      | notText => rfl
      | unread => exact absurd rfl (notText _)
      | empty => exact absurd rfl (notText _)
  · rw [read_of_text content, content]
    constructor
    · intro failure
      cases decoded : Json.decode decoder (Text.Utf8.encode chars) with
      | ok value =>
        rw [decoded] at failure
        cases failure
      | error problem =>
        rw [decoded] at failure
        cases failure
        exact ⟨.unread ((unread chars problem).mp decoded), nofun⟩
    · rintro ⟨faulty, other⟩
      generalize written : Text.Utf8.encode chars = bytes at faulty
      cases faulty with
      | notText _ notText => exact absurd written.symm (notText chars)
      | unread problem =>
        rw [(unread _ _).mpr problem]
        rfl
      | empty => exact absurd rfl other

/-- A pool is read where the file is text that holds messages, listed by ascending key. -/
theorem readPool_eq_ok_iff {pool : MessagePool} :
    readPool files file = .ok pool ↔ ∃ entries, Holds (Json.pairs Json.string) (files file) entries ∧
      pool.messages = (MessagePool.sortedEntries entries).map (·.2) := by
  rw [readPool, bind_eq_ok_iff]
  simp only [read_eq_ok_iff, ← MessagePool.ofPairs?_eq_some_iff]
  refine exists_congr fun entries => and_congr_right fun _ => ?_
  cases MessagePool.ofPairs? entries with
  | none => exact ⟨nofun, nofun⟩
  | some made => exact ⟨fun same => congrArg some (Except.ok.inj same),
      fun same => congrArg Except.ok (Option.some.inj same)⟩

theorem holds_nil_iff_faulty (pool : file = .forecasts ∨ file = .announcements) :
    Holds (Json.pairs Json.string) (files file) [] ↔ Faulty file (files file) (.empty file) := by
  constructor
  · rintro ⟨chars, content, read⟩
    rw [content]
    exact .empty pool read
  · intro faulty
    generalize files file = content at faulty
    cases faulty with
    | empty _ read => exact ⟨_, rfl, read⟩

theorem readPool_eq_error_iff (pool : file = .forecasts ∨ file = .announcements) :
    readPool files file = .error fault ↔ Faulty file (files file) fault := by
  have other : file ≠ .criticalPhrases := by rcases pool with rfl | rfl <;> decide
  rw [readPool, bind_eq_error_iff,
    read_eq_error_iff fun chars problem => decode_pairs_eq_error_iff other]
  simp only [read_eq_ok_iff]
  constructor
  · rintro (⟨faulty, _⟩ | ⟨entries, holds, failure⟩)
    · exact faulty
    · split at failure
      · cases failure
      · next nothing =>
        cases failure
        rw [MessagePool.ofPairs?_eq_none_iff.mp nothing] at holds
        exact (holds_nil_iff_faulty pool).mp holds
  · intro faulty
    by_cases empty : fault = .empty file
    · subst empty
      refine .inr ⟨[], (holds_nil_iff_faulty pool).mpr faulty, ?_⟩
      simp only [MessagePool.ofPairs?_eq_none_iff.mpr]
    · exact .inl ⟨faulty, empty⟩

end

/-- The outcome of reading one file and checking it, without the table that it holds. -/
def check (files : ResourceFiles) : ResourceFile → Except ResourceFault Unit
  | .criticalPhrases => (fun _ => ()) <$> read files .criticalPhrases phraseBook
  | .criticalSongs => (fun _ => ()) <$> read files .criticalSongs songEntries
  | .forecasts => (fun _ => ()) <$> readPool files .forecasts
  | .announcements => (fun _ => ()) <$> readPool files .announcements

/-- Loading checks all files in reading order. -/
theorem load_eq_forM_check (files : ResourceFiles) (settings : SongSettings) :
    (fun _ => ()) <$> load files settings = ResourceFile.all.forM (check files) := by
  simp only [ResourceFile.all, forM_cons_eq, check, load]
  cases read files .criticalPhrases phraseBook with
  | error fault => rfl
  | ok phrases =>
    cases read files .criticalSongs songEntries with
    | error fault => rfl
    | ok songs =>
      cases readPool files .forecasts with
      | error fault => rfl
      | ok forecasts =>
        cases readPool files .announcements with
        | error fault => rfl
        | ok announcements => rfl

theorem map_eq_ok_iff {ε α : Type} {first : Except ε α} :
    (fun _ => ()) <$> first = .ok () ↔ ∃ value, first = .ok value := by
  cases first with
  | error fault => exact ⟨nofun, nofun⟩
  | ok value => exact ⟨fun _ => ⟨value, rfl⟩, fun _ => rfl⟩

theorem map_eq_error_iff {ε α : Type} {first : Except ε α} {fault : ε} :
    (fun _ => ()) <$> first = .error fault ↔ first = .error fault := by
  cases first with
  | error other => exact ⟨fun same => by cases same; rfl, fun same => by cases same; rfl⟩
  | ok value => exact ⟨nofun, nofun⟩

variable {files : ResourceFiles} {file : ResourceFile}

theorem check_eq_error_iff {fault : ResourceFault} :
    check files file = .error fault ↔ Faulty file (files file) fault := by
  cases file with
  | criticalPhrases =>
    rw [check, map_eq_error_iff, read_eq_error_iff fun _ _ => decode_phraseBook_eq_error_iff]
    refine ⟨And.left, fun faulty => ⟨faulty, ?_⟩⟩
    rintro rfl
    exact absurd faulty.file_of_empty (by decide)
  | criticalSongs =>
    have other : ResourceFile.criticalSongs ≠ .criticalPhrases := by decide
    rw [check, map_eq_error_iff, songEntries,
      read_eq_error_iff fun _ _ => decode_pairs_eq_error_iff other]
    refine ⟨And.left, fun faulty => ⟨faulty, ?_⟩⟩
    rintro rfl
    exact absurd faulty.file_of_empty (by decide)
  | forecasts => rw [check, map_eq_error_iff, readPool_eq_error_iff (.inl rfl)]
  | announcements => rw [check, map_eq_error_iff, readPool_eq_error_iff (.inr rfl)]

theorem exists_readPool_eq_ok_iff :
    (∃ pool, readPool files file = .ok pool) ↔
      ∃ entries, Holds (Json.pairs Json.string) (files file) entries ∧ entries ≠ [] := by
  simp only [readPool_eq_ok_iff, ← MessagePool.ofPairs?_eq_some_iff]
  rw [exists_comm]
  refine exists_congr fun entries => ?_
  rw [exists_and_left, ← Option.isSome_iff_exists, ← Option.ne_none_iff_isSome, ne_eq,
    MessagePool.ofPairs?_eq_none_iff]

theorem check_eq_ok_iff : check files file = .ok () ↔ Usable file (files file) := by
  cases file with
  | criticalPhrases =>
    rw [check, map_eq_ok_iff]
    simp only [read_eq_ok_iff]
    constructor
    · rintro ⟨book, chars, content, read⟩
      exact ⟨book.success, book.failure, ⟨chars, content, decode_phraseBook_eq_ok_iff.mp read⟩,
        List.length_pos_iff.mp book.success_nonempty, List.length_pos_iff.mp book.failure_nonempty⟩
    · rintro ⟨success, failure, ⟨chars, content, read⟩, someSuccess, someFailure⟩
      exact ⟨⟨success, failure, List.length_pos_iff.mpr someSuccess, List.length_pos_iff.mpr someFailure⟩,
        chars, content, decode_phraseBook_eq_ok_iff.mpr read⟩
  | criticalSongs =>
    rw [check, map_eq_ok_iff]
    simp only [read_eq_ok_iff]
    rfl
  | forecasts => rw [check, map_eq_ok_iff, exists_readPool_eq_ok_iff, Usable]
  | announcements => rw [check, map_eq_ok_iff, exists_readPool_eq_ok_iff, Usable]

theorem usable_or_faulty (file : ResourceFile) (content : Option (List UInt8)) :
    (Usable file content ∧ ∀ fault, ¬Faulty file content fault) ∨
      (¬Usable file content ∧ ∃ fault, Faulty file content fault ∧
        ∀ other, Faulty file content other → other = fault) := by
  let files : ResourceFiles := fun _ => content
  have usable : check files file = .ok () ↔ Usable file content := check_eq_ok_iff
  have faulty : ∀ fault, check files file = .error fault ↔ Faulty file content fault :=
    fun _ => check_eq_error_iff
  cases outcome : check files file with
  | ok _ =>
    refine .inl ⟨usable.mp outcome, fun fault found => ?_⟩
    cases outcome.symm.trans ((faulty fault).mpr found)
  | error fault =>
    refine .inr ⟨fun passes => ?_, fault, (faulty fault).mp outcome, fun other found => ?_⟩
    · cases outcome.symm.trans (usable.mpr passes)
    · exact Except.error.inj (((faulty other).mpr found).symm.trans outcome)

theorem exists_load_eq_ok_iff {settings : SongSettings} :
    (∃ resources, load files settings = .ok resources) ↔ ∀ file, Usable file (files file) := by
  rw [← map_eq_ok_iff, load_eq_forM_check, forM_eq_ok_iff]
  simp only [check_eq_ok_iff]
  refine ⟨fun all file => all file ?_, fun all file _ => all file⟩
  cases file <;> decide

theorem load_eq_error_iff {settings : SongSettings} {fault : ResourceFault} :
    load files settings = .error fault ↔
      ∃ before file behind, ResourceFile.all = before ++ file :: behind ∧
        (∀ earlier ∈ before, Usable earlier (files earlier)) ∧ Faulty file (files file) fault := by
  rw [← map_eq_error_iff, load_eq_forM_check, forM_eq_error_iff]
  simp only [check_eq_ok_iff, check_eq_error_iff]

/-- Loading gives all tables where every file is usable, and otherwise the fault of the first file in
reading order that is not. Every file is either usable or has exactly one fault, which names it. The first
faulty file decides the same whatever the others hold, as long as those before it are usable. Where a list
of phrases is empty, the text does not have the type asked for; a pool without messages is empty; a book
without songs is usable. -/
theorem load_succeeds_or_first_fault (files : ResourceFiles) (settings : SongSettings) :
    ((∃ resources, load files settings = .ok resources) ↔ ∀ file, Usable file (files file)) ∧
    (∀ fault, load files settings = .error fault ↔
      ∃ before file behind, ResourceFile.all = before ++ file :: behind ∧
        (∀ earlier ∈ before, Usable earlier (files earlier)) ∧ Faulty file (files file) fault) ∧
    (∀ file content, (Usable file content ∧ ∀ fault, ¬Faulty file content fault) ∨
      (¬Usable file content ∧ ∃ fault, Faulty file content fault ∧ fault.file = file ∧
        ∀ other, Faulty file content other → other = fault)) ∧
    (∀ before file behind fault, ResourceFile.all = before ++ file :: behind →
      Faulty file (files file) fault →
      ∀ others : ResourceFiles, others file = files file →
        (∀ earlier ∈ before, Usable earlier (others earlier)) →
        load others settings = .error fault) ∧
    (∀ chars success failure rest, files .criticalPhrases = some (Text.Utf8.encode chars) →
      phraseLists.decoder (Json.Token.scan (Text.Utf8.encode chars)) =
        .ok ((success, failure), rest) →
      success = [] ∨ failure = [] →
      load files settings = .error (.json .criticalPhrases .mismatch)) ∧
    (∀ file, file = .forecasts ∨ file = .announcements →
      Holds (Json.pairs Json.string) (files file) [] → Faulty file (files file) (.empty file)) ∧
    (Holds (Json.pairs Json.string) (files .criticalSongs) [] →
      Usable .criticalSongs (files .criticalSongs)) := by
  refine ⟨exists_load_eq_ok_iff, fun fault => load_eq_error_iff, ?_, ?_, ?_, ?_, ?_⟩
  · intro file content
    rcases usable_or_faulty file content with usable | ⟨unusable, fault, faulty, only⟩
    · exact .inl usable
    · exact .inr ⟨unusable, fault, faulty, faulty.file_eq, only⟩
  · intro before file behind fault order faulty others same usable
    exact load_eq_error_iff.mpr ⟨before, file, behind, order, usable, same ▸ faulty⟩
  · intro chars success failure rest content read empty
    refine load_eq_error_iff.mpr ⟨[], .criticalPhrases, _, rfl, nofun, ?_⟩
    rw [content]
    exact .unread (.noPhrases read empty)
  · intro file pool holds
    exact (holds_nil_iff_faulty pool).mp holds
  · intro holds
    exact ⟨[], holds⟩

/-- Two bad files behind two good ones: the forecasts decide, because they are read first. -/
theorem load_empty_before_absent :
    let files : ResourceFiles := fun
      | .criticalPhrases => some (Text.Utf8.encode
        "\x7b\"success\": [\"Yes!\"], \"failure\": [\"Ouch.\"]\x7d".toList)
      | .criticalSongs => some (Text.Utf8.encode "\x7b\x7d".toList)
      | .forecasts => some (Text.Utf8.encode " \x7b \x7d".toList)
      | .announcements => none
    (∃ file, ¬Usable file (files file)) ∧ load files {} = .error (.empty .forecasts) := by
  have lists : Json.decode phraseLists.decoder (Text.Utf8.encode
      "\x7b\"success\": [\"Yes!\"], \"failure\": [\"Ouch.\"]\x7d".toList) = .ok (["Yes!"], ["Ouch."]) :=
    eq_ok_of_toOption (by decide +kernel)
  have songless : Json.decode (Json.pairs Json.string) (Text.Utf8.encode "\x7b\x7d".toList) = .ok [] :=
    eq_ok_of_toOption (by decide +kernel)
  have messageless : Json.decode (Json.pairs Json.string) (Text.Utf8.encode " \x7b \x7d".toList) =
      .ok [] :=
    eq_ok_of_toOption (by decide +kernel)
  intro files
  obtain ⟨succeeds, fails, _, _, _, empty, without⟩ := load_succeeds_or_first_fault files {}
  have book : Usable .criticalPhrases (files .criticalPhrases) :=
    ⟨_, _, ⟨_, rfl, lists⟩, by decide, by decide⟩
  have songs : Usable .criticalSongs (files .criticalSongs) := without ⟨_, rfl, songless⟩
  have forecasts : Faulty .forecasts (files .forecasts) (.empty .forecasts) :=
    empty .forecasts (.inl rfl) ⟨_, rfl, messageless⟩
  have failed : load files {} = .error (.empty .forecasts) :=
    (fails _).mpr ⟨[.criticalPhrases, .criticalSongs], .forecasts, _, rfl, by simp [book, songs], forecasts⟩
  refine ⟨?_, failed⟩
  by_contra all
  obtain ⟨resources, loaded⟩ := succeeds.mpr fun file => by
    by_contra unusable
    exact all ⟨file, unusable⟩
  cases failed.symm.trans loaded

/-- The tables are what the files hold, with the links as they are set. -/
structure Loaded (files : ResourceFiles) (settings : SongSettings) (resources : Resources) : Prop where
  phrases : Holds phraseLists.decoder (files .criticalPhrases)
    (resources.phrases.success, resources.phrases.failure)
  songs : Holds (Json.pairs Json.string) (files .criticalSongs) resources.songs.entries
  linkBase : resources.songs.linkBase = settings.linkBase
  fallback : resources.songs.fallback = settings.fallback
  forecasts : ∃ entries, Holds (Json.pairs Json.string) (files .forecasts) entries ∧
    resources.forecasts.messages = (MessagePool.sortedEntries entries).map (·.2)
  announcements : ∃ entries, Holds (Json.pairs Json.string) (files .announcements) entries ∧
    resources.announcements.messages = (MessagePool.sortedEntries entries).map (·.2)

theorem loaded_of_load {files : ResourceFiles} {settings : SongSettings} {resources : Resources}
    (success : load files settings = .ok resources) : Loaded files settings resources := by
  obtain ⟨phrases, book, success⟩ := bind_eq_ok_iff.mp success
  obtain ⟨songs, entries, success⟩ := bind_eq_ok_iff.mp success
  obtain ⟨forecasts, weather, success⟩ := bind_eq_ok_iff.mp success
  obtain ⟨announcements, news, success⟩ := bind_eq_ok_iff.mp success
  cases success
  obtain ⟨chars, content, read⟩ := read_eq_ok_iff.mp book
  exact {
    phrases := ⟨chars, content, decode_phraseBook_eq_ok_iff.mp read⟩
    songs := read_eq_ok_iff.mp entries
    linkBase := rfl
    fallback := rfl
    forecasts := readPool_eq_ok_iff.mp weather
    announcements := readPool_eq_ok_iff.mp news }

end Resources

end TabletopBot
