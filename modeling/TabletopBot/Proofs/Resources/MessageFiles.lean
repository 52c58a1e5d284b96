import TabletopBot.Proofs.Json.ObjectText
import TabletopBot.Proofs.Resources.Loading

/-! # Message files

What loading makes of an object of texts, however it is written. As a pool, the file stands for the
mapping that its fields write down; as the book of songs, it answers with the last song of a user.
-/

namespace TabletopBot

open Json (HexDigit Literal ObjectText Spaces SurrogatePair UnitEscape shortEscapes
  spelled_of_plain)
open Text.Utf8 (encode)

/-- The entries are the last messages of all keys, by ascending UTF-8 bytes of the keys. -/
structure MessagePool.Lists (pairs entries : List (String × String)) : Prop where
  ascending : entries.Pairwise fun entry later => encode entry.1.toList < encode later.1.toList
  mem_iff : ∀ key message, (key, message) ∈ entries ↔ LastFor pairs key message

theorem MessagePool.lists_sortedEntries (pairs : List (String × String)) :
    Lists pairs (sortedEntries pairs) where
  ascending := (ascending_sortedEntries pairs).imp fun smaller => Text.Utf8.encode_lt_encode smaller
  mem_iff _ _ := mem_sortedEntries_iff

namespace Resources

variable {pairs : List (String × String)} {written : List Char}

theorem holds_of_objectText (text : ObjectText pairs written) :
    Holds (Json.pairs Json.string) (some (encode written)) pairs :=
  ⟨written, rfl, Json.decode_objectText text⟩

section

variable {files : ResourceFiles} {file : ResourceFile}

theorem readPool_of_objectText (text : ObjectText pairs written)
    (content : files file = some (encode written)) :
    readPool files file = match MessagePool.ofPairs? pairs with
      | some pool => .ok pool
      | none => .error (.empty file) := by
  have holds := read_eq_ok_iff.mpr (content ▸ holds_of_objectText text)
  rw [readPool, holds]
  rfl

theorem readPool_eq_empty_iff (text : ObjectText pairs written)
    (content : files file = some (encode written)) :
    readPool files file = .error (.empty file) ↔ pairs = [] := by
  rw [readPool_of_objectText text content, ← MessagePool.ofPairs?_eq_none_iff]
  cases MessagePool.ofPairs? pairs with
  | none => exact ⟨fun _ => rfl, fun _ => rfl⟩
  | some pool => exact ⟨nofun, nofun⟩

theorem exists_readPool_of_objectText (text : ObjectText pairs written) (nonempty : pairs ≠ [])
    (content : files file = some (encode written)) :
    ∃ pool, readPool files file = .ok pool ∧
      pool.messages = (MessagePool.sortedEntries pairs).map (·.2) := by
  rw [readPool_of_objectText text content]
  cases made : MessagePool.ofPairs? pairs with
  | none => exact absurd (MessagePool.ofPairs?_eq_none_iff.mp made) nonempty
  | some pool => exact ⟨pool, rfl, MessagePool.ofPairs?_eq_some_iff.mp made⟩

end

/-- The songs of a loaded book are the fields of its file. -/
theorem songs_of_load {files : ResourceFiles} {settings : SongSettings} {resources : Resources}
    (text : ObjectText pairs written) (content : files .criticalSongs = some (encode written))
    (success : load files settings = .ok resources) :
    resources.songs =
      { entries := pairs, fallback := settings.fallback, linkBase := settings.linkBase } := by
  have loaded := loaded_of_load success
  have entries : resources.songs.entries = pairs :=
    loaded.songs.eq (content ▸ holds_of_objectText text)
  rw [← entries, ← loaded.fallback, ← loaded.linkBase]

/-- However an object of texts is written, its fields alone matter. As a pool they are listed by ascending
bytes of their keys, each key once and with its last text, and only without any field the pool is empty.
Fields with keys that are all different make the same pool in any order, so both answer the same to every
pick. As the file of songs they never stop loading, and a user is linked to the last song written for
exactly this user, or to the fallback where none is. -/
theorem objectText_loads_mapping (text : ObjectText pairs written) :
    (∀ files file, files file = some (encode written) →
      (readPool files file = .error (.empty file) ↔ pairs = []) ∧
      (pairs ≠ [] → ∃ pool entries, readPool files file = .ok pool ∧
        pool.messages = entries.map (·.2) ∧ MessagePool.Lists pairs entries)) ∧
    (∀ others otherWritten, ObjectText others otherWritten → others.Perm pairs →
      (pairs.map (·.1)).Nodup → pairs ≠ [] → ∃ pool, ∀ files file,
        files file = some (encode written) ∨ files file = some (encode otherWritten) →
          readPool files file = .ok pool) ∧
    ∀ (files : ResourceFiles) settings, files .criticalSongs = some (encode written) →
      ((∃ resources, load files settings = .ok resources) ↔
        ∀ file, file ≠ .criticalSongs → Usable file (files file)) ∧
      ∀ resources, load files settings = .ok resources → ∀ user,
        (∀ song, MessagePool.LastFor pairs user song →
          resources.songs.linkFor user = settings.linkBase ++ song) ∧
        ((∀ pair ∈ pairs, pair.1 ≠ user) →
          resources.songs.linkFor user = settings.linkBase ++ settings.fallback) := by
  refine ⟨?_, ?_, ?_⟩
  · intro files file content
    refine ⟨readPool_eq_empty_iff text content, ?_⟩
    intro nonempty
    obtain ⟨pool, read, messages⟩ := exists_readPool_of_objectText text nonempty content
    exact ⟨pool, _, read, messages, MessagePool.lists_sortedEntries pairs⟩
  · intro others otherWritten otherText reordered distinct nonempty
    have made : ∃ pool, MessagePool.ofPairs? pairs = some pool := by
      apply Option.ne_none_iff_exists'.mp
      exact fun nothing => nonempty (MessagePool.ofPairs?_eq_none_iff.mp nothing)
    obtain ⟨pool, made⟩ := made
    have alsoMade : MessagePool.ofPairs? others = some pool := by
      rw [← made, MessagePool.ofPairs?, MessagePool.ofPairs?,
        MessagePool.sortedEntries_eq_of_perm reordered distinct]
    refine ⟨pool, ?_⟩
    rintro files file (content | content)
    · rw [readPool_of_objectText text content, made]
    · rw [readPool_of_objectText otherText content, alsoMade]
  · intro files settings content
    constructor
    · rw [exists_load_eq_ok_iff]
      constructor
      · exact fun usable file _ => usable file
      · intro usable file
        by_cases songs : file = .criticalSongs
        · subst songs
          rw [content]
          exact ⟨pairs, holds_of_objectText text⟩
        · exact usable file songs
    · intro resources success user
      rw [songs_of_load text content success, Dice.SongBook.linkFor, Dice.SongBook.song?]
      constructor
      · intro song last
        rw [MessagePool.lookup_reverse_eq_some_iff.mpr last, Option.getD_some]
      · intro absent
        rw [MessagePool.lookup_reverse_eq_none_iff.mpr absent, Option.getD_none]

/-- A file with escapes and white space, in which a key comes twice. -/
theorem escaped_file_loads_mapping :
    let written :=
      "\x7b \"b\":\"x\",\n\"\\u0061\" : \"\\uD83d\\uDE00\", \"b\":\"\\/y\"\x7d\n".toList
    let files : ResourceFiles := fun
      | .criticalPhrases => some (encode
        "\x7b\"success\": [\"Yes!\"], \"failure\": [\"Ouch.\"]\x7d".toList)
      | .criticalSongs => some (encode written)
      | .forecasts => some (encode written)
      | .announcements => some (encode written)
    ObjectText [("b", "x"), ("a", "😀"), ("b", "/y")] written ∧
    (∃ pool, ∃ entries : List (String × String),
      readPool files .forecasts = .ok pool ∧ pool.messages = entries.map (·.2) ∧
      ("a", "😀") ∈ entries ∧ ("b", "/y") ∈ entries ∧ ("b", "x") ∉ entries) ∧
    ∃ resources, load files {} = .ok resources ∧
      resources.songs.linkFor "b" = Dice.defaultLinkBase ++ "/y" ∧
      resources.songs.linkFor "c" = Dice.defaultLinkBase ++ Dice.defaultFallback := by
  have lists : Json.decode phraseLists.decoder (encode
      "\x7b\"success\": [\"Yes!\"], \"failure\": [\"Ouch.\"]\x7d".toList) = .ok (["Yes!"], ["Ouch."]) :=
    eq_ok_of_toOption (by decide +kernel)
  intro written files
  have letter : UnitEscape 'a'.toNat _ := .digits (a := 0) (b := 0) (c := 6) (d := 1)
    (by decide : HexDigit _ '0') (by decide : HexDigit _ '0') (by decide : HexDigit _ '6')
    (by decide : HexDigit _ '1')
  have high : UnitEscape 0xD83D _ := .digits (a := 13) (b := 8) (c := 3) (d := 13)
    (by decide : HexDigit _ 'D') (by decide : HexDigit _ '8') (by decide : HexDigit _ '3')
    (by decide : HexDigit _ 'd')
  have low : UnitEscape 0xDE00 _ := .digits (a := 13) (b := 14) (c := 0) (d := 0)
    (by decide : HexDigit _ 'D') (by decide : HexDigit _ 'E') (by decide : HexDigit _ '0')
    (by decide : HexDigit _ '0')
  have surrogates : SurrogatePair '😀' 0xD83D 0xDE00 :=
    ⟨by decide, by decide, by decide, by decide, by decide⟩
  have solidus : ('/', '/') ∈ shortEscapes := by decide
  have a : Literal "a" _ := .quoted (.cons (.unit letter) .nil)
  have b : Literal "b" ['"', 'b', '"'] := .quoted (spelled_of_plain (by decide))
  have x : Literal "x" ['"', 'x', '"'] := .quoted (spelled_of_plain (by decide))
  have y : Literal "/y" _ :=
    .quoted (.cons (.short solidus) (spelled_of_plain (by decide : ['y'].all _)))
  have smiley : Literal "😀" _ := .quoted (.cons (.pair surrogates high low) .nil)
  have nothing : Spaces [] := by decide
  have blank : Spaces [' '] := by decide
  have newline : Spaces ['\n'] := by decide
  have text : ObjectText [("b", "x"), ("a", "😀"), ("b", "/y")] written :=
    .fields nothing (.cons (.field blank b nothing nothing x nothing)
      (.cons (.field newline a blank blank smiley nothing) (.last (.field blank b nothing nothing y nothing))))
      newline
  obtain ⟨pooled, _, linked⟩ := objectText_loads_mapping text
  obtain ⟨pool, entries, read, messages, listing⟩ := (pooled files .forecasts rfl).2 (by decide)
  obtain ⟨succeeds, links⟩ := linked files {} rfl
  have usable : ∀ file, file ≠ .criticalSongs → Usable file (files file) := by
    intro file other
    cases file with
    | criticalPhrases => exact ⟨_, _, ⟨_, rfl, lists⟩, by decide, by decide⟩
    | criticalSongs => exact absurd rfl other
    | forecasts => exact ⟨_, holds_of_objectText text, by decide⟩
    | announcements => exact ⟨_, holds_of_objectText text, by decide⟩
  obtain ⟨resources, success⟩ := succeeds.mpr usable
  refine ⟨text, ⟨pool, entries, read, messages, ?_, ?_, ?_⟩, resources, success, ?_, ?_⟩
  · exact (listing.mem_iff _ _).mpr ⟨[("b", "x")], [("b", "/y")], rfl, by decide⟩
  · exact (listing.mem_iff _ _).mpr ⟨[("b", "x"), ("a", "😀")], [], rfl, by decide⟩
  · intro listed
    have last := MessagePool.lookup_reverse_eq_some_iff.mpr ((listing.mem_iff _ _).mp listed)
    exact absurd last (by decide)
  · exact (links resources success "b").1 "/y" ⟨[("b", "x"), ("a", "😀")], [], rfl, by decide⟩
  · exact (links resources success "c").2 (by decide)

end Resources

end TabletopBot
