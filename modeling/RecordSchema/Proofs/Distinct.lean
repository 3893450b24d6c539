/-
**Distinct elements of a list.**

`List.eraseDups` keeps the first of several equal elements:

* `nodup_eraseDups` — no element is kept twice, so there are no more than before
  (`length_eraseDups_le`).
* `eraseDups_concat` — one more element is kept exactly if it is new.
* `pairwise_idxOf_eraseDups` — what is kept stands in the order of the first occurrences.
* `firstsOf_iff` — these properties say what is kept (`FirstsOf`).
* `perm_eraseDups` — lists with the same elements keep the same ones.
-/

import Mathlib.Data.List.Induction

namespace RecordSchema

variable {α : Type} [BEq α] [LawfulBEq α]

theorem nodup_eraseDups (elements : List α) : elements.eraseDups.Nodup := by
  cases elements with
  | nil => exact List.nodup_nil
  | cons first rest =>
    rw [List.eraseDups_cons, List.nodup_cons]
    refine ⟨fun again => ?_, nodup_eraseDups (rest.filter fun other => !other == first)⟩
    have kept := (List.mem_filter.mp (List.mem_eraseDups.mp again)).2
    simp at kept
termination_by elements.length
decreasing_by
  have bound := List.length_filter_le (fun other => !other == first) rest
  rw [List.length_cons]
  omega

theorem length_eraseDups_le (elements : List α) : elements.eraseDups.length ≤ elements.length :=
  (nodup_eraseDups elements).length_le_of_subset fun _ kept => List.mem_eraseDups.mp kept

/-- One more element is kept exactly if it is new. -/
theorem eraseDups_concat [DecidableEq α] (elements : List α) (added : α) :
    (elements ++ [added]).eraseDups =
      if added ∈ elements then elements.eraseDups else elements.eraseDups ++ [added] := by
  rw [List.eraseDups_append]
  by_cases old : added ∈ elements
  · have nothing : [added].removeAll elements = [] := by simp [List.removeAll, old]
    rw [nothing, if_pos old, List.eraseDups_nil, List.append_nil]
  · have itself : [added].removeAll elements = [added] := by simp [List.removeAll, old]
    rw [itself, if_neg old]
    rfl

/-- What is kept stands in the order of the first occurrences. -/
theorem pairwise_idxOf_eraseDups [DecidableEq α] (elements : List α) :
    elements.eraseDups.Pairwise fun first second =>
      elements.idxOf first < elements.idxOf second := by
  induction elements using List.reverseRecOn with
  | nil => exact List.Pairwise.nil
  | append_singleton elements added hypothesis =>
    -- Older elements stay where they first occurred.
    have older : elements.eraseDups.Pairwise fun first second =>
        (elements ++ [added]).idxOf first < (elements ++ [added]).idxOf second := by
      refine hypothesis.imp_of_mem fun firstKept secondKept before => ?_
      rw [List.idxOf_append, if_pos (List.mem_eraseDups.mp firstKept), List.idxOf_append,
        if_pos (List.mem_eraseDups.mp secondKept)]
      exact before
    rw [eraseDups_concat]
    by_cases old : added ∈ elements
    · rwa [if_pos old]
    · rw [if_neg old, List.pairwise_append]
      refine ⟨older, List.pairwise_singleton _ _, fun first kept second last => ?_⟩
      have occurs := List.mem_eraseDups.mp kept
      rw [List.mem_singleton.mp last, List.idxOf_append, if_pos occurs, List.idxOf_append,
        if_neg old]
      exact Nat.lt_of_lt_of_le (List.idxOf_lt_length_of_mem occurs) (Nat.le_add_left _ _)

/-- Lists with the same elements keep the same ones. -/
theorem perm_eraseDups {first second : List α}
    (same : ∀ element, element ∈ first ↔ element ∈ second) :
    first.eraseDups.Perm second.eraseDups := by
  rw [List.perm_ext_iff_of_nodup (nodup_eraseDups first) (nodup_eraseDups second)]
  intro element
  rw [List.mem_eraseDups, List.mem_eraseDups, same]

/-- Whether a list is left of another one when all repetitions are removed: it has the same
elements, each of them once, and in the order of their first occurrences. -/
structure FirstsOf (elements kept : List α) : Prop where
  nodup : kept.Nodup
  mem_iff : ∀ element, element ∈ kept ↔ element ∈ elements
  ordered : kept.Pairwise fun first second => elements.idxOf first < elements.idxOf second

/-- **What is left without the repetitions** is one list only. -/
theorem firstsOf_iff [DecidableEq α] {elements kept : List α} :
    FirstsOf elements kept ↔ kept = elements.eraseDups := by
  constructor
  · intro firsts
    have reordered : kept.Perm elements.eraseDups := by
      rw [List.perm_ext_iff_of_nodup firsts.nodup (nodup_eraseDups elements)]
      intro element
      rw [firsts.mem_iff, List.mem_eraseDups]
    apply List.Perm.eq_of_pairwise _ firsts.ordered (pairwise_idxOf_eraseDups elements) reordered
    intro first second _ _ before after
    exact absurd after (Nat.lt_asymm before)
  · rintro rfl
    exact ⟨nodup_eraseDups elements, fun _ => List.mem_eraseDups,
      pairwise_idxOf_eraseDups elements⟩

end RecordSchema
