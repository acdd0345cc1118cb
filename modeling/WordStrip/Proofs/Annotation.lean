import WordStrip.Proofs.Typing

/-!
# Laws of notes

The note of a suggestion is written from its text, its score and its dictionary, and replaces whatever
note it had. So an annotation does not see notes: suggestions that are the same up to notes take the
same notes (`annotate_congr`), and annotating what is annotated changes nothing.

Nor does it see what stands behind a suggestion: the first suggestions of a longer list take the notes
that they take by themselves (`prefix_annotate`).
-/

namespace WordStrip

theorem annotateRest_map_bare (typed : String) (cs : List Candidate) :
    annotateRest typed (cs.map Candidate.bare) = annotateRest typed cs := by
  induction cs with
  | nil => rfl
  | cons c rest ih =>
    have note : scoreNote typed c.bare = scoreNote typed c := rfl
    rw [List.map_cons, annotateRest, annotateRest, note, ih]
    rfl

theorem annotate_map_bare (typed : String) (cs : List Candidate) :
    annotate typed (cs.map Candidate.bare) = annotate typed cs := by
  cases cs with
  | nil => rfl
  | cons c rest =>
    rw [List.map_cons, annotate, annotate, annotateRest_map_bare]
    rfl

/-- Suggestions that are the same up to notes are annotated alike. -/
theorem annotate_congr {typed : String} {cs ds : List Candidate}
    (same : cs.map Candidate.bare = ds.map Candidate.bare) : annotate typed cs = annotate typed ds := by
  rw [← annotate_map_bare, same, annotate_map_bare]

/-! ## Longer lists -/

/-- When a list is annotated, so is what it begins with, and alike. -/
theorem prefix_annotateRest {typed : String} {cs ds out : List Candidate} (shorter : cs <+: ds)
    (annotated : annotateRest typed ds = .ok out) :
    ∃ front, annotateRest typed cs = .ok front ∧ front <+: out := by
  induction cs generalizing ds out with
  | nil => exact ⟨[], rfl, List.nil_prefix⟩
  | cons c rest ih =>
    obtain ⟨behind, rfl⟩ := shorter
    obtain ⟨note, noted, further⟩ := bind_eq_ok.mp annotated
    obtain ⟨tail, walked, answer⟩ := bind_eq_ok.mp further
    obtain rfl := pure_eq_ok.mp answer
    obtain ⟨front, walkedFront, begins⟩ := ih (List.prefix_append rest behind) walked
    refine ⟨c.withNote note :: front, ?_, List.cons_prefix_cons.mpr ⟨rfl, begins⟩⟩
    exact bind_eq_ok.mpr ⟨note, noted, bind_eq_ok.mpr ⟨front, walkedFront, rfl⟩⟩

/-- So it is when the first suggestion has a plus instead of a note. -/
theorem prefix_annotate {typed : String} {cs ds out : List Candidate} (shorter : cs <+: ds)
    (annotated : annotate typed ds = .ok out) :
    ∃ front, annotate typed cs = .ok front ∧ front <+: out := by
  cases cs with
  | nil => exact ⟨[], rfl, List.nil_prefix⟩
  | cons c rest =>
    obtain ⟨behind, rfl⟩ := shorter
    obtain ⟨tail, walked, answer⟩ := bind_eq_ok.mp annotated
    obtain rfl := pure_eq_ok.mp answer
    obtain ⟨front, walkedFront, begins⟩ := prefix_annotateRest (List.prefix_append rest behind) walked
    refine ⟨c.withNote "+" :: front, ?_, List.cons_prefix_cons.mpr ⟨rfl, begins⟩⟩
    exact bind_eq_ok.mpr ⟨front, walkedFront, rfl⟩

end WordStrip
