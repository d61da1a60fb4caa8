import Mathlib.Data.List.Find
import Mathlib.Data.List.Infix
import MaxPatch.Command.Scaffold

/-! # Filling in: texts in place of others

`fill` puts texts in place of others all at once: it goes through a text from the front, and what it
has put in it does not look at again. With one text to replace it is a step of `render`
(`replaceAll_eq`), so whatever is shown here holds of the steps, one after the other, and of all
placeholders at once.

The texts to replace begin with a mark (`Slots.Marked`). A character that none of them has cuts a
text in two: nothing reaches across, and both sides are filled in on their own (`fill_cut`). So a
piece without a mark that begins with such a character stays where it is (`fill_piece`).

What is put in begins with another character than what it replaces. So a text that is filled in
differs at once from the text as it was, where there was something to replace (`free_of_fill`). -/

namespace MaxPatch.Scaffold

/-! ### All at once -/

/-- Texts to replace, each with what comes in its place. -/
abbrev Slots := List (List Char × List Char)

/-- Fills in all slots from the front. Of several texts that begin at one place the first of the
list counts. The number is how many characters are still to be passed over, as they have been
replaced. -/
def fillFrom (slots : Slots) : Nat → List Char → List Char
  | _, [] => []
  | skip + 1, _ :: cs => fillFrom slots skip cs
  | 0, c :: cs =>
    match slots.find? (·.1.isPrefixOf (c :: cs)) with
    | some (old, new) => new ++ fillFrom slots (old.length - 1) cs
    | none => c :: fillFrom slots 0 cs

/-- Fills in all slots. -/
def fill (slots : Slots) (cs : List Char) : List Char := fillFrom slots 0 cs

/-- Every text to replace begins with a mark. -/
def Slots.Marked (mark : Char) (slots : Slots) : Prop :=
  ∀ slot ∈ slots, slot.1.head? = some mark

/-- None of the texts to replace occurs in a text. -/
def Slots.Free (slots : Slots) (cs : List Char) : Prop := ∀ slot ∈ slots, ¬ slot.1 <:+: cs

variable {mark : Char} {slots : Slots}

theorem Slots.Marked.ne_nil (hm : slots.Marked mark) {slot : List Char × List Char}
    (h : slot ∈ slots) : slot.1 ≠ [] := fun hnil => by
  have hhead := hm slot h
  rw [hnil] at hhead
  cases hhead

theorem Slots.Marked.head_of_prefix (hm : slots.Marked mark) {slot : List Char × List Char}
    (h : slot ∈ slots) {c : Char} {cs : List Char} (hp : slot.1 <+: c :: cs) : mark = c := by
  obtain ⟨tail, htail⟩ := List.head?_eq_some_iff.mp (hm slot h)
  rw [htail] at hp
  exact (List.cons_prefix_cons.mp hp).1

theorem fillFrom_eq (skip : Nat) (cs : List Char) :
    fillFrom slots skip cs = fill slots (cs.drop skip) := by
  induction cs generalizing skip with
  | nil => cases skip <;> rfl
  | cons c cs ih =>
    cases skip with
    | zero => rfl
    | succ skip => exact ih skip

theorem fill_cons {c : Char} {cs : List Char} (h : ∀ slot ∈ slots, ¬ slot.1 <+: c :: cs) :
    fill slots (c :: cs) = c :: fill slots cs := by
  have hnone : slots.find? (·.1.isPrefixOf (c :: cs)) = none :=
    List.find?_eq_none.mpr fun slot hslot hp =>
      h slot hslot (List.isPrefixOf_iff_prefix.mp hp)
  rw [fill, fillFrom, hnone]
  rfl

theorem fill_found {old new cs : List Char} (hold : old ≠ [])
    (h : slots.find? (·.1.isPrefixOf (old ++ cs)) = some (old, new)) :
    fill slots (old ++ cs) = new ++ fill slots cs := by
  obtain ⟨c, old, rfl⟩ := List.exists_cons_of_ne_nil hold
  rw [List.cons_append] at h ⊢
  rw [fill, fillFrom, h]
  simp only
  rw [fillFrom_eq, List.length_cons, Nat.add_sub_cancel, List.drop_left]

theorem fill_whole {old new : List Char} (hold : old ≠ [])
    (h : slots.find? (·.1.isPrefixOf old) = some (old, new)) : fill slots old = new := by
  have hfind : slots.find? (·.1.isPrefixOf (old ++ [])) = some (old, new) := by
    rwa [List.append_nil]
  have hfound := fill_found hold hfind
  rwa [List.append_nil, show fill slots [] = [] from rfl, List.append_nil] at hfound

theorem fill_cases (hm : slots.Marked mark) (c : Char) (cs : List Char) :
    (∀ slot ∈ slots, ¬ slot.1 <+: c :: cs) ∨
    ∃ old new rest, (old, new) ∈ slots ∧ c :: cs = old ++ rest ∧
      fill slots (c :: cs) = new ++ fill slots rest := by
  cases hfind : slots.find? (·.1.isPrefixOf (c :: cs)) with
  | none =>
    refine Or.inl fun slot hslot hp => ?_
    exact List.find?_eq_none.mp hfind slot hslot (List.isPrefixOf_iff_prefix.mpr hp)
  | some slot =>
    obtain ⟨old, new⟩ := slot
    have hmem := List.mem_of_find?_eq_some hfind
    have hprefix := List.find?_some hfind
    obtain ⟨rest, hrest⟩ := List.isPrefixOf_iff_prefix.mp hprefix
    refine Or.inr ⟨old, new, rest, hmem, hrest.symm, ?_⟩
    rw [← hrest] at hfind ⊢
    exact fill_found (hm.ne_nil hmem) hfind

theorem Slots.Free.of_cons {c : Char} {cs : List Char} (h : slots.Free (c :: cs)) :
    slots.Free cs := fun slot hslot hinfix => h slot hslot (List.infix_cons hinfix)

/-- **Where nothing is to be replaced**, filling in changes nothing. -/
theorem fill_of_free {cs : List Char} (h : slots.Free cs) : fill slots cs = cs := by
  induction cs with
  | nil => rfl
  | cons c cs ih =>
    rw [fill_cons fun slot hslot hp => h slot hslot hp.isInfix, ih h.of_cons]

/-! ### Steps -/

theorem replaceIn_eq {old : List Char} (new : List Char) (hold : old ≠ []) {n : Nat}
    {cs : List Char} (hn : cs.length ≤ n) : replaceIn old new n cs = fill [(old, new)] cs := by
  induction n generalizing cs with
  | zero =>
    obtain rfl : cs = [] := List.length_eq_zero_iff.mp (Nat.le_zero.mp hn)
    rfl
  | succ n ih =>
    cases cs with
    | nil => rfl
    | cons c cs =>
      rw [List.length_cons] at hn
      rw [replaceIn]
      split_ifs with hp
      · obtain ⟨rest, hrest⟩ := List.isPrefixOf_iff_prefix.mp hp
        have hpos := List.length_pos_iff.mpr hold
        have hlength := congrArg List.length hrest
        rw [List.length_append, List.length_cons] at hlength
        rw [← hrest, List.drop_left, ih (by omega), fill_found hold]
        simp
      · rw [ih (by omega), fill_cons fun slot hslot hprefix => hp ?_]
        rw [List.mem_singleton] at hslot
        subst hslot
        exact List.isPrefixOf_iff_prefix.mpr hprefix

/-- **A step of a scaffold** fills in one slot. -/
theorem replaceAll_eq (text new : String) {old : String} (hold : old.toList ≠ []) :
    replaceAll text old new = String.ofList (fill [(old.toList, new.toList)] text.toList) := by
  rw [replaceAll, replaceIn_eq _ hold]
  exact Nat.le_of_eq String.length_toList

/-! ### Cuts -/

theorem prefix_cut_iff {old xs ys : List Char} {c : Char} (hc : c ∉ old) :
    old <+: xs ++ c :: ys ↔ old <+: xs := by
  refine ⟨fun h => ?_, fun h => h.trans (List.prefix_append xs _)⟩
  have hxs : xs ++ [c] <+: xs ++ c :: ys := ⟨ys, by simp⟩
  rcases List.prefix_or_prefix_of_prefix h hxs with hp | hp
  · rcases List.prefix_concat_iff.mp hp with rfl | hp
    · exact absurd (List.mem_append_right xs List.mem_cons_self) hc
    · exact hp
  · exact absurd (hp.subset (List.mem_append_right xs List.mem_cons_self)) hc

theorem fillFrom_cut (hm : slots.Marked mark) {c : Char} (hc : ∀ slot ∈ slots, c ∉ slot.1)
    {skip : Nat} {xs : List Char} (hskip : skip ≤ xs.length) (ys : List Char) :
    fillFrom slots skip (xs ++ c :: ys) = fillFrom slots skip xs ++ c :: fill slots ys := by
  induction xs generalizing skip with
  | nil =>
    obtain rfl : skip = 0 := Nat.le_zero.mp hskip
    refine fill_cons fun slot hslot hp => hm.ne_nil hslot ?_
    have hnil : slot.1 <+: [] := (prefix_cut_iff (hc slot hslot)).mp hp
    exact List.prefix_nil.mp hnil
  | cons x xs ih =>
    cases skip with
    | succ skip => exact ih (Nat.le_of_succ_le_succ hskip)
    | zero =>
      -- the same is found here, whether the text goes on behind `xs` or not
      have hfind : slots.find? (·.1.isPrefixOf (x :: (xs ++ c :: ys))) =
          slots.find? (·.1.isPrefixOf (x :: xs)) :=
        List.find?_congr fun slot hslot => by
          rw [Bool.eq_iff_iff, List.isPrefixOf_iff_prefix, List.isPrefixOf_iff_prefix,
            ← List.cons_append, prefix_cut_iff (hc slot hslot)]
      rw [List.cons_append, fillFrom, fillFrom, hfind]
      cases hslot : slots.find? (·.1.isPrefixOf (x :: xs)) with
      | none => exact congrArg (x :: ·) (ih (Nat.zero_le _))
      | some slot =>
        have hprefix := List.find?_some hslot
        have hle := (List.isPrefixOf_iff_prefix.mp hprefix).length_le
        rw [List.length_cons] at hle
        simp only
        rw [ih (by omega), List.append_assoc]

/-- **A character that no text to replace has cuts a text in two.** -/
theorem fill_cut (hm : slots.Marked mark) {c : Char} (hc : ∀ slot ∈ slots, c ∉ slot.1)
    (xs ys : List Char) : fill slots (xs ++ c :: ys) = fill slots xs ++ c :: fill slots ys :=
  fillFrom_cut hm hc (Nat.zero_le _) ys

theorem fill_append_of_not_mem (hm : slots.Marked mark) {xs : List Char} (hxs : mark ∉ xs)
    (ys : List Char) : fill slots (xs ++ ys) = xs ++ fill slots ys := by
  induction xs with
  | nil => rfl
  | cons x xs ih =>
    rw [List.mem_cons, not_or] at hxs
    rw [List.cons_append, fill_cons fun slot hslot hp => ?_, ih hxs.2, List.cons_append]
    exact hxs.1 (hm.head_of_prefix hslot hp)

/-- **A piece that stays where it is**: it has no mark, and begins with a character that cuts. -/
theorem fill_piece (hm : slots.Marked mark) {c : Char} {piece : List Char}
    (hc : ∀ slot ∈ slots, c ∉ slot.1) (hpiece : mark ∉ piece) (xs ys : List Char) :
    fill slots (xs ++ (c :: piece) ++ ys) = fill slots xs ++ (c :: piece) ++ fill slots ys := by
  rw [List.append_assoc, List.cons_append, fill_cut hm hc, fill_append_of_not_mem hm hpiece]
  simp

/-! ### Differences -/

/-- What is put in begins with another character than a mark. -/
def Slots.Unmarking (mark : Char) (slots : Slots) : Prop :=
  ∀ slot ∈ slots, ∃ c, slot.2.head? = some c ∧ c ≠ mark

/-- **A text that is filled in differs** from the text as it was, where there is something to
replace, and before either of them ends. -/
theorem free_of_fill (hm : slots.Marked mark) (hu : slots.Unmarking mark) {xs ys zs : List Char}
    (h : fill slots xs ++ ys = xs ++ zs) : slots.Free xs := by
  induction xs with
  | nil =>
    intro slot hslot hinfix
    exact hm.ne_nil hslot (List.infix_nil.mp hinfix)
  | cons x xs ih =>
    rcases fill_cases hm x xs with hnone | ⟨old, new, rest, hmem, hsplit, hfill⟩
    · rw [fill_cons hnone, List.cons_append, List.cons_append, List.cons.injEq] at h
      intro slot hslot hinfix
      rcases List.infix_cons_iff.mp hinfix with hp | hinfix
      · exact hnone slot hslot hp
      · exact ih h.2 slot hslot hinfix
    · obtain ⟨c, hc, hne⟩ := hu _ hmem
      obtain ⟨new, rfl⟩ : ∃ tail, new = c :: tail := List.head?_eq_some_iff.mp hc
      have hx : x = mark := (hm.head_of_prefix hmem ⟨rest, hsplit.symm⟩).symm
      rw [hfill, List.cons_append, List.cons_append, List.cons_append, List.cons.injEq] at h
      exact absurd (h.1.trans hx) hne

theorem exists_first {old : List Char} (new : List Char) (hm : Slots.Marked mark [(old, new)])
    {cs : List Char} (h : old <:+: cs) : ∃ before behind, cs = before ++ old ++ behind ∧
      fill [(old, new)] cs = before ++ new ++ fill [(old, new)] behind := by
  induction cs with
  | nil => exact absurd (List.infix_nil.mp h) (hm.ne_nil List.mem_cons_self)
  | cons c cs ih =>
    rcases fill_cases hm c cs with hnone | ⟨_, _, rest, hmem, hsplit, hfill⟩
    · rcases List.infix_cons_iff.mp h with hp | hinfix
      · exact absurd hp (hnone _ List.mem_cons_self)
      · obtain ⟨before, behind, hcs, hfill⟩ := ih hinfix
        exact ⟨c :: before, behind, by rw [hcs]; rfl, by rw [fill_cons hnone, hfill]; rfl⟩
    · obtain ⟨rfl, rfl⟩ := Prod.mk.inj (List.mem_singleton.mp hmem)
      exact ⟨[], rest, hsplit, hfill⟩

end MaxPatch.Scaffold
