import TabletopBot.Wiki.Document

/-! # What a document quotes

A document names its page, quotes the preview if there is something to see in it, and quotes the text of the
page, both cut to their limits (`describes_build`). A cut looks at one character more than it keeps, so that
texts that agree that far are quoted alike.
-/

namespace TabletopBot.Wiki.Document

/-- A text is quoted whole where it is within a limit, else as its first characters and an ellipsis. -/
inductive Quotes (limit : Nat) (text : String) : String → Prop
  | whole : text.length ≤ limit → Quotes limit text text
  | start {front back : List Char} : text.toList = front ++ back → front.length = limit → back ≠ [] →
      Quotes limit text (String.ofList front ++ "…")

/-- The line of a preview, which is left out where there is nothing to see in the preview. -/
inductive PreviewLine (preview : String) : String → Prop
  | absent : Text.Blank preview.toList = true → PreviewLine preview ""
  | quoted {quote : String} : Text.Blank preview.toList = false → Quotes 400 preview quote →
      PreviewLine preview ("\nPreview: " ++ quote)

/-- The document of a page with a title, an address, a preview and a text. -/
structure Describes (title url preview html document : String) : Prop where
  shape : ∃ line quote, PreviewLine preview line ∧ Quotes 2500 html quote ∧
    document = "Title: " ++ title ++ "\nURL: " ++ url ++ line ++ "\n\n" ++ quote

theorem quotes_truncate (limit : Nat) (text : String) :
    Quotes limit text (String.ofList (truncate limit text.toList)) := by
  rw [truncate]
  split
  · next short =>
    rw [String.ofList_toList]
    exact .whole (String.length_toList ▸ short)
  · next long =>
    rw [String.ofList_append]
    have length : (text.toList.take limit).length = limit :=
      List.length_take_of_le (Nat.le_of_not_le long)
    have more : text.toList.drop limit ≠ [] := by
      rw [ne_eq, List.drop_eq_nil_iff]
      exact long
    exact .start (List.take_append_drop limit text.toList).symm length more

theorem describes_build (hit : Hit) (html : String) :
    Describes hit.name hit.url hit.preview html (build hit html) where
  shape := by
    refine ⟨_, _, ?_, quotes_truncate bodyLimit html, rfl⟩
    split
    · next blank => exact .absent blank
    · next seen => exact .quoted (Bool.eq_false_iff.mpr seen) (quotes_truncate previewLimit hit.preview)

theorem truncate_take (limit : Nat) (chars : List Char) :
    truncate limit (chars.take (limit + 1)) = truncate limit chars := by
  by_cases short : chars.length ≤ limit
  · rw [List.take_of_length_le (by omega)]
  · have long : ¬(chars.take (limit + 1)).length ≤ limit := by
      rw [List.length_take]
      omega
    rw [truncate, truncate, if_neg short, if_neg long, List.take_take, Nat.min_eq_left (by omega)]

theorem truncate_eq_of_take_eq {limit : Nat} {first second : List Char}
    (same : first.take (limit + 1) = second.take (limit + 1)) :
    truncate limit first = truncate limit second := by
  rw [← truncate_take, same, truncate_take]

theorem build_eq_of_take_page_eq (hit : Hit) {html other : String}
    (same : html.toList.take (bodyLimit + 1) = other.toList.take (bodyLimit + 1)) :
    build hit html = build hit other := by
  rw [build, build, truncate_eq_of_take_eq same]

theorem build_eq_of_take_preview_eq (hit : Hit) {preview : String} (html : String)
    (seen : Text.Blank hit.preview.toList = false) (otherSeen : Text.Blank preview.toList = false)
    (same : hit.preview.toList.take (previewLimit + 1) = preview.toList.take (previewLimit + 1)) :
    build { hit with preview } html = build hit html := by
  simp only [build, seen, otherSeen, truncate_eq_of_take_eq same]

theorem Quotes.length_le {limit : Nat} {text quote : String} (quotes : Quotes limit text quote) :
    quote.length ≤ limit + 1 := by
  cases quotes with
  | whole short => omega
  | start _ length =>
    have ellipsis : "…".length = 1 := by rfl
    rw [String.length_append, String.length_ofList]
    omega

theorem PreviewLine.length_le {preview line : String} (shown : PreviewLine preview line) :
    line.length ≤ 411 := by
  cases shown with
  | absent => exact Nat.zero_le _
  | quoted _ quotes =>
    have label : "\nPreview: ".length = 10 := by rfl
    have length := quotes.length_le
    rw [String.length_append]
    omega

theorem Describes.length_le {title url preview html document : String}
    (describes : Describes title url preview html document) :
    document.length ≤ title.length + url.length + 2927 := by
  obtain ⟨line, quote, shown, quotes, rfl⟩ := describes.shape
  have previewLength := shown.length_le
  have pageLength := quotes.length_le
  have titleLabel : "Title: ".length = 7 := by rfl
  have urlLabel : "\nURL: ".length = 6 := by rfl
  have gap : "\n\n".length = 2 := by rfl
  simp only [String.length_append]
  omega

end TabletopBot.Wiki.Document
