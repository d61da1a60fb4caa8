import Mathlib.Data.List.Basic

/-! # Pieces: what stands between separators

A text is cut at its separators, and what is empty is left out. Paths are cut so at slashes, and
names at everything but letters and digits. The pieces are the stretches without a separator that
cannot be made longer (`mem_pieces_iff`), and together they are the text without its separators
(`flatten_pieces`). -/

namespace MaxPatch

/-- The longest stretches of a text without a separator, in their order. -/
def pieces (separates : Char → Bool) (cs : List Char) : List (List Char) :=
  (cs.splitOnP separates).filter (· ≠ [])

variable {separates : Char → Bool}

theorem pieces_nil : pieces separates [] = [] := rfl

theorem pieces_append_cons (xs ys : List Char) {c : Char} (hc : separates c = true) :
    pieces separates (xs ++ c :: ys) = pieces separates xs ++ pieces separates ys := by
  rw [pieces, List.splitOnP_append_cons xs ys hc, List.filter_append, ← pieces, ← pieces]

theorem pieces_of_forall {cs : List Char} (hne : cs ≠ []) (h : ∀ c ∈ cs, separates c = false) :
    pieces separates cs = [cs] := by
  rw [pieces, List.splitOnP_eq_singleton h, List.filter_singleton, decide_eq_true hne]
  rfl

theorem pieces_append_left {before : List Char} (h : ∀ c ∈ before.getLast?, separates c = true)
    (ys : List Char) : pieces separates (before ++ ys) =
      pieces separates before ++ pieces separates ys := by
  rcases List.eq_nil_or_concat' before with rfl | ⟨xs, c, rfl⟩
  · rfl
  · have hc : separates c = true := h c (by simp)
    rw [List.append_assoc, List.singleton_append, pieces_append_cons _ _ hc,
      pieces_append_cons _ [] hc, pieces_nil, List.append_nil]

theorem pieces_append_right {behind : List Char} (h : ∀ c ∈ behind.head?, separates c = true)
    (xs : List Char) : pieces separates (xs ++ behind) =
      pieces separates xs ++ pieces separates behind := by
  cases behind with
  | nil => rw [pieces_nil, List.append_nil, List.append_nil]
  | cons c ys =>
    have hc : separates c = true := h c rfl
    rw [pieces_append_cons _ _ hc, show pieces separates (c :: ys) = _ from
      pieces_append_cons [] ys hc, pieces_nil, List.nil_append]

/-- **The pieces together** are the text without its separators. -/
theorem flatten_pieces (cs : List Char) :
    (pieces separates cs).flatten = cs.filter fun c => !separates c := by
  rw [pieces, List.flatten_filter_ne_nil]
  induction cs with
  | nil => rfl
  | cons c cs ih =>
    rw [List.splitOnP_cons_eq_if_modifyHead]
    obtain ⟨part, parts, hparts⟩ :=
      List.exists_cons_of_ne_nil (List.splitOnP_ne_nil separates cs)
    rw [hparts] at ih ⊢
    cases hc : separates c with
    | true => simpa [hc] using ih
    | false => simpa [hc] using ih

theorem pieces_eq_nil_iff (cs : List Char) :
    pieces separates cs = [] ↔ ∀ c ∈ cs, separates c = true := by
  have hfilter : cs.filter (fun c => !separates c) = [] ↔ ∀ c ∈ cs, separates c = true := by
    simp [List.filter_eq_nil_iff]
  rw [← hfilter, ← flatten_pieces, List.flatten_eq_nil_iff]
  refine ⟨fun h => by simp [h], fun h => List.eq_nil_iff_forall_not_mem.mpr fun part hpart => ?_⟩
  exact absurd (h part hpart) (of_decide_eq_true (List.mem_filter.mp hpart).2)

/-- A stretch of a text without a separator that cannot be made longer. -/
structure IsStretch (separates : Char → Bool) (part cs : List Char) : Prop where
  ne_nil : part ≠ []
  free : ∀ c ∈ part, separates c = false
  maximal : ∃ before behind, cs = before ++ part ++ behind ∧
    (∀ c ∈ before.getLast?, separates c = true) ∧ ∀ c ∈ behind.head?, separates c = true

theorem IsStretch.behind {part ys : List Char} (h : IsStretch separates part ys) (xs : List Char)
    {c : Char} (hc : separates c = true) : IsStretch separates part (xs ++ c :: ys) where
  ne_nil := h.ne_nil
  free := h.free
  maximal := by
    obtain ⟨before, behind, rfl, hbefore, hbehind⟩ := h.maximal
    refine ⟨xs ++ c :: before, behind, by simp, ?_, hbehind⟩
    rcases List.eq_nil_or_concat' before with rfl | ⟨before, e, rfl⟩
    · simpa using hc
    · rw [← List.cons_append, ← List.append_assoc, List.getLast?_concat]
      rwa [List.getLast?_concat] at hbefore

/-- **The pieces are the longest stretches** without a separator. -/
theorem mem_pieces_iff {part : List Char} (cs : List Char) :
    part ∈ pieces separates cs ↔ IsStretch separates part cs := by
  constructor
  · intro hpart
    -- up to the first separator there is one piece, and the others are behind it
    cases hfirst : cs.find? separates with
    | none =>
      have hfree : ∀ c ∈ cs, separates c = false := fun c hc => by
        simpa using List.find?_eq_none.mp hfirst c hc
      by_cases hne : cs = []
      · subst hne; cases hpart
      · rw [pieces_of_forall hne hfree, List.mem_singleton] at hpart
        subst hpart
        exact ⟨hne, hfree, [], [], by simp, by simp, by simp⟩
    | some c =>
      obtain ⟨hc, xs, ys, rfl, hxs⟩ := List.find?_eq_some_iff_append.mp hfirst
      have hfree : ∀ c ∈ xs, separates c = false := fun c hc => by simpa using hxs c hc
      rw [pieces_append_cons _ _ hc, List.mem_append] at hpart
      rcases hpart with hpart | hpart
      · by_cases hne : xs = []
        · subst hne; cases hpart
        · rw [pieces_of_forall hne hfree, List.mem_singleton] at hpart
          subst hpart
          exact ⟨hne, hfree, [], c :: ys, by simp, by simp, by simpa using hc⟩
      · exact IsStretch.behind ((mem_pieces_iff ys).mp hpart) xs hc
  · rintro ⟨hne, hfree, before, behind, rfl, hbefore, hbehind⟩
    rw [pieces_append_right hbehind, pieces_append_left hbefore, pieces_of_forall hne hfree]
    simp
termination_by cs.length

end MaxPatch
