import Mathlib.Algebra.Order.BigOperators.Group.List
import Mathlib.Algebra.Order.Group.Nat
import TabletopBot.Proofs.Text.Joined
import TabletopBot.Proofs.Wiki.Document

/-! # How long a prompt is

A prompt takes the question, its documents with their numbers and a fixed number of characters for each of
them, whatever the documents hold. As documents quote only the beginnings of previews and pages, the titles
and the addresses of the pages bound it (`prompt_bounded`).
-/

namespace TabletopBot.Wiki.Document

/-- Numbered documents with a separator behind each: their numbers, and 18 characters for the label and the
separator of each. -/
theorem sum_length_numbered (first : Nat) (documents : List String) :
    ((numbered first documents).map (·.length + separator.length)).sum =
      ((documents.zipIdx first).map fun (document, number) =>
        document.length + (Text.decimalDigits number).length + 18).sum := by
  induction documents generalizing first with
  | nil => rfl
  | cons document documents ih =>
    have label : "Document ".length = 9 := by rfl
    have colon : ":\n".length = 2 := by rfl
    have line : separator.length = 7 := by rfl
    rw [numbered, List.zipIdx_cons, List.map_cons, List.map_cons, List.sum_cons, List.sum_cons, ih]
    simp only [String.length_append, String.length_ofList, label, colon, line]
    omega

theorem length_prompt (question : String) (documents : List String) :
    (prompt question documents).length =
      question.length + 51 + (separator.intercalate (numbered 1 documents)).length := by
  have opening : "User Question: ".length = 15 := by rfl
  have middle : "\n\nContext for answering your query: ".length = 36 := by rfl
  change ("User Question: " ++ question ++ "\n\nContext for answering your query: " ++
    separator.intercalate (numbered 1 documents)).length = _
  rw [String.length_append, String.length_append, String.length_append, opening, middle]
  omega

/-- There is a separator behind each document but the last. -/
theorem length_prompt_add (question : String) {documents : List String} (nonempty : documents ≠ []) :
    (prompt question documents).length + 7 = question.length + 51 +
      ((documents.zipIdx 1).map fun (document, number) =>
        document.length + (Text.decimalDigits number).length + 18).sum := by
  have numberedSome : numbered 1 documents ≠ [] := by
    obtain ⟨document, others, rfl⟩ := List.exists_cons_of_ne_nil nonempty
    exact List.cons_ne_nil _ _
  have joined : (separator.intercalate (numbered 1 documents)).length + separator.length = _ :=
    Text.length_intercalate_add numberedSome
  have line : separator.length = 7 := by rfl
  rw [sum_length_numbered, line] at joined
  rw [length_prompt]
  omega

theorem length_prompt_le (question : String) (documents : List String) :
    (prompt question documents).length ≤ question.length + 51 +
      ((documents.zipIdx 1).map fun (document, number) =>
        document.length + (Text.decimalDigits number).length + 18).sum := by
  by_cases undocumented : documents = []
  · subst undocumented
    have nothing : (separator.intercalate (numbered 1 [])).length = 0 := by rfl
    rw [length_prompt, nothing]
    exact Nat.le_add_right _ _
  · have length := length_prompt_add question undocumented
    omega

/-- A prompt about pages is bounded by their titles and addresses, whatever the previews and the pages
hold. -/
theorem length_prompt_build_le (question : String) (pages : List (Hit × String)) :
    (prompt question (pages.map fun (hit, html) => build hit html)).length ≤ question.length + 51 +
      ((pages.zipIdx 1).map fun ((hit, _), number) =>
        hit.name.length + hit.url.length + (Text.decimalDigits number).length + 2945).sum := by
  have length := length_prompt_le question (pages.map fun (hit, html) => build hit html)
  rw [List.zipIdx_map, List.map_map] at length
  refine length.trans (Nat.add_le_add_left (List.sum_le_sum ?_) _)
  rintro ⟨⟨hit, html⟩, number⟩ _
  have document := (describes_build hit html).length_le
  change (build hit html).length + (Text.decimalDigits number).length + 18 ≤
    hit.name.length + hit.url.length + (Text.decimalDigits number).length + 2945
  omega

/-- A document quotes a page up to 2500 characters and a preview up to 400, so that its length is bounded,
and only one character more of either makes a difference to it. The length of a prompt exceeds that of its
question by a fixed number of characters, and by the documents, their numbers and a fixed number of characters
for each of them; what the pages hold does not add to that. -/
theorem prompt_bounded :
    (∀ hit html, Describes hit.name hit.url hit.preview html (build hit html) ∧
      (build hit html).length ≤ hit.name.length + hit.url.length + 2927) ∧
    (∀ hit html other, html.toList.take 2501 = other.toList.take 2501 →
      build hit html = build hit other) ∧
    (∀ hit preview html, Text.Blank hit.preview.toList = false → Text.Blank preview.toList = false →
      hit.preview.toList.take 401 = preview.toList.take 401 →
      build { hit with preview } html = build hit html) ∧
    (∀ question documents, (prompt question documents).length ≤ question.length + 51 +
      ((documents.zipIdx 1).map fun (document, number) =>
        document.length + (Text.decimalDigits number).length + 18).sum) ∧
    ∀ question (pages : List (Hit × String)),
      (prompt question (pages.map fun (hit, html) => build hit html)).length ≤ question.length + 51 +
        ((pages.zipIdx 1).map fun ((hit, _), number) =>
          hit.name.length + hit.url.length + (Text.decimalDigits number).length + 2945).sum := by
  refine ⟨?_, ?_, ?_, length_prompt_le, length_prompt_build_le⟩
  · intro hit html
    exact ⟨describes_build hit html, (describes_build hit html).length_le⟩
  · intro hit html other same
    exact build_eq_of_take_page_eq hit same
  · intro hit preview html seen otherSeen same
    exact build_eq_of_take_preview_eq hit html seen otherSeen same

/-- Behind the first 2501 characters of a page, each of two bytes, nothing makes a difference. -/
theorem prompt_bounded_of_accents :
    let page (behind : List Char) := String.ofList (List.replicate 2501 'é' ++ behind)
    (page ['x']).toList.take 2501 = (page []).toList.take 2501 ∧
    build ⟨"Inn", "http://w/i", ""⟩ (page ['x']) = build ⟨"Inn", "http://w/i", ""⟩ (page []) := by
  intro page
  have start (behind : List Char) : (page behind).toList.take 2501 = List.replicate 2501 'é' := by
    rw [String.toList_ofList]
    exact List.take_left' List.length_replicate
  have same := (start ['x']).trans (start []).symm
  obtain ⟨-, pages, -⟩ := prompt_bounded
  exact ⟨same, pages _ _ _ same⟩

end TabletopBot.Wiki.Document
