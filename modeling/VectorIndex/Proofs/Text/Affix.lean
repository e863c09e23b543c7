import Mathlib.Tactic.Common
import VectorIndex.Text.Affix

/-!
# Pieces and endings of a text

What a text is when it ends in a suffix, and what happens to the pieces between separators
when something without a separator is appended: only the last piece grows.
-/

set_option autoImplicit false

namespace VectorIndex.Text

/-- A stem and the suffix that was taken off make up the text. -/
theorem toList_of_stem? {suffix text stem : String} (h : stem? suffix text = some stem) :
    text.toList = stem.toList ++ suffix.toList := by
  unfold stem? at h
  dsimp only at h
  split at h
  · next hdrop =>
    obtain rfl := Option.some.inj h
    rw [String.toList_ofList]
    conv_lhs =>
      rw [← List.take_append_drop (text.toList.length - suffix.toList.length) text.toList, hdrop]
  · cases h

/-- A suffix that was put on can be taken off. -/
theorem stem?_append (stem suffix : String) : stem? suffix (stem ++ suffix) = some stem := by
  unfold stem?
  simp [String.toList_append]

/-- Without a separator there is one piece. -/
theorem splitAt_of_notMem {sep : Char} {cs : List Char} (h : sep ∉ cs) : splitAt sep cs = [cs] := by
  induction cs with
  | nil => rfl
  | cons c cs ih =>
    have hne : c ≠ sep := Ne.symm (List.ne_of_not_mem_cons h)
    unfold splitAt
    rw [if_neg hne, ih (List.not_mem_of_not_mem_cons h)]

/-- Even of nothing there is a piece, an empty one. -/
theorem splitAt_ne_nil (sep : Char) (cs : List Char) : splitAt sep cs ≠ [] := by
  cases cs with
  | nil => exact List.cons_ne_nil _ _
  | cons c cs =>
    unfold splitAt
    split
    · exact List.cons_ne_nil _ _
    · split <;> exact List.cons_ne_nil _ _

/-- A separator in front ends an empty piece. -/
theorem splitAt_cons_self (sep : Char) (cs : List Char) :
    splitAt sep (sep :: cs) = [] :: splitAt sep cs :=
  if_pos rfl

/-- A character that is no separator goes to the first piece. -/
theorem splitAt_cons_of_ne {sep c : Char} (hc : c ≠ sep) {cs piece : List Char}
    {pieces : List (List Char)} (h : splitAt sep cs = piece :: pieces) :
    splitAt sep (c :: cs) = (c :: piece) :: pieces := by
  unfold splitAt
  rw [if_neg hc, h]

/-- A separator divides the pieces. -/
theorem splitAt_append_cons (sep : Char) (cs cs' : List Char) :
    splitAt sep (cs ++ sep :: cs') = splitAt sep cs ++ splitAt sep cs' := by
  induction cs with
  | nil => exact splitAt_cons_self sep cs'
  | cons c cs ih =>
    obtain ⟨piece, pieces, hpieces⟩ := List.exists_cons_of_ne_nil (splitAt_ne_nil sep cs)
    by_cases hc : c = sep
    · subst hc
      rw [List.cons_append, splitAt_cons_self, splitAt_cons_self, ih, List.cons_append]
    · rw [hpieces] at ih
      rw [List.cons_append, splitAt_cons_of_ne hc ih, splitAt_cons_of_ne hc hpieces]
      rfl

/-- Pieces contain no separator. -/
theorem notMem_of_mem_splitAt {sep : Char} {cs piece : List Char} (h : piece ∈ splitAt sep cs) :
    sep ∉ piece := by
  induction cs generalizing piece with
  | nil =>
    rw [List.mem_singleton.1 h]
    exact List.not_mem_nil
  | cons c cs ih =>
    by_cases hc : c = sep
    · subst hc
      rw [splitAt_cons_self] at h
      obtain rfl | hmem := List.mem_cons.1 h
      · exact List.not_mem_nil
      · exact ih hmem
    · obtain ⟨first, pieces, hpieces⟩ := List.exists_cons_of_ne_nil (splitAt_ne_nil sep cs)
      rw [splitAt_cons_of_ne hc hpieces] at h
      rw [hpieces] at ih
      obtain rfl | hmem := List.mem_cons.1 h
      · exact List.not_mem_cons_of_ne_of_not_mem (Ne.symm hc) (ih List.mem_cons_self)
      · exact ih (List.mem_cons_of_mem _ hmem)

/-- What is appended without a separator goes to the last piece, which is not empty unless the
characters end in a separator. -/
theorem splitAt_append (sep : Char) (cs : List Char) :
    ∃ front last, (∀ ending, sep ∉ ending →
        splitAt sep (cs ++ ending) = front ++ [last ++ ending]) ∧
      (cs ≠ [] → cs.getLast? ≠ some sep → last ≠ []) := by
  induction cs with
  | nil => exact ⟨[], [], fun ending h => splitAt_of_notMem h, fun h => absurd rfl h⟩
  | cons c cs ih =>
    obtain ⟨front, last, hsplit, hlast⟩ := ih
    by_cases hc : c = sep
    · subst hc
      refine ⟨[] :: front, last, fun ending h => ?_, fun _ hend => ?_⟩
      · rw [List.cons_append, splitAt, if_pos rfl, hsplit ending h, List.cons_append]
      · have hne : cs ≠ [] := by
          rintro rfl
          exact hend rfl
        refine hlast hne ?_
        rwa [List.getLast?_cons_of_ne_nil hne] at hend
    · cases front with
      | nil =>
        refine ⟨[], c :: last, fun ending h => ?_, fun _ _ => List.cons_ne_nil c last⟩
        rw [List.cons_append, splitAt, if_neg hc, hsplit ending h]
        rfl
      | cons piece pieces =>
        refine ⟨(c :: piece) :: pieces, last, fun ending h => ?_, fun _ hend => ?_⟩
        · rw [List.cons_append, splitAt, if_neg hc, hsplit ending h]
          rfl
        · have hne : cs ≠ [] := by
            rintro rfl
            have hnil := hsplit [] (List.not_mem_nil)
            rw [List.nil_append] at hnil
            have hlength := congrArg List.length hnil
            simp [splitAt] at hlength
          refine hlast hne ?_
          rwa [List.getLast?_cons_of_ne_nil hne] at hend

/-- A last segment has no slash, and ends as the text does. -/
theorem exists_lastSegment {text : String} {front ending : List Char}
    (htext : text.toList = front ++ ending) (hslash : '/' ∉ ending) :
    '/' ∉ (lastSegment text).toList ∧ ∃ rest, (lastSegment text).toList = rest ++ ending := by
  unfold lastSegment
  rw [String.toList_ofList]
  refine ⟨fun hmem => ?_, (front.reverse.takeWhile (· != '/')).reverse, ?_⟩
  · have hne := List.all_eq_true.1 List.all_takeWhile _ (List.mem_reverse.1 hmem)
    exact absurd rfl (bne_iff_ne.1 hne)
  · have hall : ∀ c ∈ ending.reverse, (c != '/') = true := fun c hc =>
      bne_iff_ne.2 fun heq => hslash (heq ▸ List.mem_reverse.1 hc)
    rw [htext, List.reverse_append, List.takeWhile_append_of_pos hall, List.reverse_append,
      List.reverse_reverse]

/-- What stands before the last segment: nothing, or a text that ends in a slash. -/
def directory (text : String) : String :=
  String.ofList (text.toList.reverse.dropWhile (· != '/')).reverse

/-- A text is its directory and its last segment. -/
theorem directory_append_lastSegment (text : String) : directory text ++ lastSegment text = text := by
  unfold directory lastSegment
  rw [← String.ofList_append, ← List.reverse_append, List.takeWhile_append_dropWhile,
    List.reverse_reverse, String.ofList_toList]

variable {text ending : String}

/-- What is put behind a text goes to its last segment. -/
theorem directory_append (h : '/' ∉ ending.toList) : directory (text ++ ending) = directory text := by
  unfold directory
  rw [String.toList_append, List.reverse_append, List.dropWhile_append_of_pos]
  exact fun c hc => bne_iff_ne.2 fun heq => h (heq ▸ List.mem_reverse.1 hc)

/-- An ending without a slash goes to the last segment. -/
theorem lastSegment_append (h : '/' ∉ ending.toList) :
    lastSegment (text ++ ending) = lastSegment text ++ ending := by
  unfold lastSegment
  rw [String.toList_append, List.reverse_append, List.takeWhile_append_of_pos, List.reverse_append,
    List.reverse_reverse, String.ofList_append, String.ofList_toList]
  exact fun c hc => bne_iff_ne.2 fun heq => h (heq ▸ List.mem_reverse.1 hc)

/-- A text that ends in something without a slash has a last segment. -/
theorem lastSegment_ne_empty {text : String} {front ending : List Char}
    (htext : text.toList = front ++ ending) (hne : ending ≠ []) (hslash : '/' ∉ ending) :
    lastSegment text ≠ "" := by
  obtain ⟨-, rest, hlast⟩ := exists_lastSegment htext hslash
  intro hempty
  rw [hempty] at hlast
  exact hne (List.append_eq_nil_iff.1 hlast.symm).2

end VectorIndex.Text
