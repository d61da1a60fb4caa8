import Mathlib.Data.List.DropRight
import MaxPatch.Proofs.Filling

/-! # Scaffolds: what stands in them

A scaffold is made in four steps, and each of them also sees what the steps before it have brought
in. What keeps the placeholders of the template apart is what stands between them, its `frame`: no
step can reach across (`fill_around`). So the two texts that come from the name are filled in each
on its own, and in the end they stand where all at once would have put them (`render_eq_filled`).

They stand there as they should if no placeholder occurs in the name: the literal has none then
either (`infix_of_infix_literal`). If a later one does, the kind or the body is written into the
name (`not_occurs_of_expanded`), and the scaffold names another device:
`name_with_placeholder_is_expanded`. -/

namespace MaxPatch

/-! ### Literals -/

namespace Text

theorem not_mem_toDigitsCore (fuel n : Nat) {digits : List Char} (h : '@' ∉ digits) :
    '@' ∉ Nat.toDigitsCore 16 fuel n digits := by
  induction fuel generalizing n digits with
  | zero => exact h
  | succ fuel ih =>
    have hcons : '@' ∉ (n % 16).digitChar :: digits := by
      rw [List.mem_cons, not_or]
      exact ⟨by simp, h⟩
    rw [Nat.toDigitsCore]
    split_ifs
    · exact hcons
    · exact ih _ hcons

theorem literalChar_cases (c : Char) :
    literalChar c = [c] ∨ ∃ code, literalChar c = '\\' :: code ∧ '@' ∉ code := by
  unfold literalChar
  iterate 6
    split
    · exact Or.inr ⟨_, rfl, by decide⟩
  split
  · refine Or.inr ⟨_, rfl, ?_⟩
    have hcode := not_mem_toDigitsCore (c.toNat + 1) c.toNat List.not_mem_nil
    simpa [Nat.toDigits] using hcode
  · exact Or.inl rfl

variable {old : List Char}

theorem prefix_of_prefix_literal (hquote : '"' ∉ old) (hslash : '\\' ∉ old) {cs : List Char}
    (h : old <+: cs.flatMap literalChar ++ ['"']) : old <+: cs := by
  induction old generalizing cs with
  | nil => exact List.nil_prefix
  | cons a old ih =>
    rw [List.mem_cons, not_or] at hquote hslash
    cases cs with
    | nil => exact absurd (List.cons_prefix_cons.mp h).1.symm hquote.1
    | cons c cs =>
      rw [List.flatMap_cons, List.append_assoc] at h
      rcases literalChar_cases c with hc | ⟨code, hc, -⟩
      · rw [hc, List.singleton_append] at h
        obtain ⟨rfl, hrest⟩ := List.cons_prefix_cons.mp h
        exact List.cons_prefix_cons.mpr ⟨rfl, ih hquote.2 hslash.2 hrest⟩
      · rw [hc, List.cons_append] at h
        exact absurd (List.cons_prefix_cons.mp h).1.symm hslash.1

theorem infix_of_infix_append (hold : old.head? = some '@') {xs ys : List Char} (hxs : '@' ∉ xs)
    (h : old <:+: xs ++ ys) : old <:+: ys := by
  induction xs with
  | nil => exact h
  | cons x xs ih =>
    rw [List.mem_cons, not_or] at hxs
    rcases List.infix_cons_iff.mp h with hp | hinfix
    · obtain ⟨tail, rfl⟩ := List.head?_eq_some_iff.mp hold
      exact absurd (List.cons_prefix_cons.mp hp).1 hxs.1
    · exact ih hxs.2 hinfix

theorem infix_of_infix_body (hold : old.head? = some '@') (hquote : '"' ∉ old)
    (hslash : '\\' ∉ old) {cs : List Char} (h : old <:+: cs.flatMap literalChar ++ ['"']) :
    old <:+: cs := by
  induction cs with
  | nil =>
    have hnil : old <:+: [] := infix_of_infix_append hold (by decide : '@' ∉ ['"']) h
    rw [List.infix_nil.mp hnil] at hold
    cases hold
  | cons c cs ih =>
    rw [List.flatMap_cons, List.append_assoc] at h
    rcases literalChar_cases c with hc | ⟨code, hc, hcode⟩
    · rw [hc, List.singleton_append] at h
      rcases List.infix_cons_iff.mp h with hp | hinfix
      · have hall : old <+: (c :: cs).flatMap literalChar ++ ['"'] := by
          rw [List.flatMap_cons, hc]
          exact hp
        exact (prefix_of_prefix_literal hquote hslash hall).isInfix
      · exact List.infix_cons (ih hinfix)
    · have hno : '@' ∉ literalChar c := by rw [hc]; simpa using hcode
      exact List.infix_cons (ih (infix_of_infix_append hold hno h))

/-- **What occurs in the literal of a text occurs in the text**, if it begins with an at sign and
has no character that a literal writes in another way. -/
theorem infix_of_infix_literal (hold : old.head? = some '@') (hquote : '"' ∉ old)
    (hslash : '\\' ∉ old) {s : String} (h : old <:+: (literal s).toList) : old <:+: s.toList := by
  rw [literal, String.toList_ofList] at h
  exact infix_of_infix_body hold hquote hslash
    (infix_of_infix_append hold (by decide : '@' ∉ ['"']) h)

end Text

namespace Scaffold

/-! ### The frame -/

/-- The placeholders of the template. -/
def placeholders : List (List Char) :=
  [namePlaceholder, literalPlaceholder, kindPlaceholder, bodyPlaceholder].map String.toList

theorem mem_placeholders : namePlaceholder.toList ∈ placeholders ∧
    literalPlaceholder.toList ∈ placeholders ∧ kindPlaceholder.toList ∈ placeholders ∧
    bodyPlaceholder.toList ∈ placeholders := by decide

/-- What stands before the first occurrence of a text, and what stands behind it. -/
def cutAt (old : List Char) : List Char → List Char × List Char
  | [] => ([], [])
  | c :: cs =>
    if old.isPrefixOf (c :: cs) then ([], (c :: cs).drop old.length)
    else
      let (before, behind) := cutAt old cs
      (c :: before, behind)

/-- What stands around the placeholders of a template. -/
structure Frame where
  heading : List Char
  opening : List Char
  call : List Char
  level : List Char
  ending : List Char

/-- The frame of a text with the placeholders in it. -/
def frameOf (text : List Char) : Frame :=
  let (heading, rest) := cutAt namePlaceholder.toList text
  let (opening, rest) := cutAt kindPlaceholder.toList rest
  let (call, rest) := cutAt literalPlaceholder.toList rest
  let (level, ending) := cutAt bodyPlaceholder.toList rest
  { heading, opening, call, level, ending }

/-- The frame of the template. -/
def frame : Frame := frameOf template.toList

/-- A frame with something in it. -/
def Frame.around (f : Frame) (shown kind literal body : List Char) : List Char :=
  f.heading ++ shown ++ f.opening ++ kind ++ f.call ++ literal ++ f.level ++ body ++ f.ending

/-- A piece of a frame that no placeholder reaches into. -/
def Apart (piece : List Char) : Prop :=
  '@' ∉ piece ∧ piece.head?.any fun c => placeholders.all fun old => c ∉ old

instance (piece : List Char) : Decidable (Apart piece) := by unfold Apart; infer_instance

theorem toList_lines (ls : List String) :
    (lines ls).toList = ls.flatMap fun l => l.toList ++ ['\n'] := by
  rw [lines, String.toList_join, List.flatMap_map]
  simp only [String.toList_append]
  rfl

/-- **The template is its frame around the placeholders**, and its pieces keep them apart. -/
theorem template_eq :
    template.toList = frame.around namePlaceholder.toList kindPlaceholder.toList
      literalPlaceholder.toList bodyPlaceholder.toList ∧
    '@' ∉ frame.heading ∧ Apart frame.opening ∧ Apart frame.call ∧ Apart frame.level ∧
      Apart frame.ending := by
  rw [frame, template, toList_lines]
  decide +kernel

/-! ### One slot or all -/

/-- Only placeholders are replaced. -/
def Slots.Ours (slots : Slots) : Prop := ∀ slot ∈ slots, slot.1 ∈ placeholders

section Slots
variable {slots : Slots}

theorem Slots.Ours.marked (h : slots.Ours) : slots.Marked '@' := by
  have hall : ∀ old ∈ placeholders, old.head? = some '@' := by decide
  exact fun slot hslot => hall _ (h slot hslot)

theorem Apart.fill (h : slots.Ours) {piece : List Char} (hp : Apart piece) (xs ys : List Char) :
    fill slots (xs ++ piece ++ ys) = Scaffold.fill slots xs ++ piece ++ Scaffold.fill slots ys := by
  obtain ⟨hmark, hhead⟩ := hp
  cases piece with
  | nil => cases hhead
  | cons c piece =>
    rw [List.head?_cons, Option.any_some, List.all_eq_true] at hhead
    refine fill_piece h.marked (fun slot hslot => ?_) (fun hc => hmark ?_) xs ys
    · exact of_decide_eq_true (hhead _ (h slot hslot))
    · exact List.mem_cons_of_mem _ hc

/-- **What is in the frame is filled in each on its own.** -/
theorem fill_around (h : slots.Ours) (shown kind literal body : List Char) :
    fill slots (frame.around shown kind literal body) =
      frame.around (fill slots shown) (fill slots kind) (fill slots literal) (fill slots body) := by
  obtain ⟨-, hheading, hopening, hcall, hlevel, hending⟩ := template_eq
  have hlast := hending.fill h (frame.heading ++ shown ++ frame.opening ++ kind ++ frame.call ++
    literal ++ frame.level ++ body) []
  rw [List.append_nil, show fill slots [] = [] from rfl, List.append_nil] at hlast
  rw [Frame.around, hlast, hlevel.fill h, hcall.fill h, hopening.fill h,
    fill_append_of_not_mem h.marked hheading, Frame.around]

end Slots

/-- A text occurs in another. -/
def Occurs (part text : String) : Prop := part.toList <:+: text.toList

instance (part text : String) : Decidable (Occurs part text) := by unfold Occurs; infer_instance

section Step
variable {old : String} {new : List Char}

theorem ne_nil_of_mem {old : List Char} (h : old ∈ placeholders) : old ≠ [] := by
  have hall : ∀ old ∈ placeholders, old ≠ [] := by decide
  exact hall _ h

theorem ours_singleton (h : old.toList ∈ placeholders) : Slots.Ours [(old.toList, new)] :=
  fun _ hslot => (List.mem_singleton.mp hslot) ▸ h

theorem free_singleton {text : String} (h : ¬ Occurs old text) :
    Slots.Free [(old.toList, new)] text.toList :=
  fun _ hslot => (List.mem_singleton.mp hslot) ▸ h

theorem fill_self (h : old.toList ∈ placeholders) : fill [(old.toList, new)] old.toList = new :=
  fill_whole (ne_nil_of_mem h) (by simp)

theorem fill_other {other : List Char} (h : old.toList ∈ placeholders) (ho : other ∈ placeholders)
    (hne : other ≠ old.toList) : fill [(old.toList, new)] other = other := by
  have hall : ∀ old ∈ placeholders, ∀ other ∈ placeholders, old <:+: other → other = old := by
    decide
  refine fill_of_free fun slot hslot hinfix => hne ?_
  rw [List.mem_singleton] at hslot
  subst hslot
  exact hall _ h _ ho hinfix

theorem toList_replaceAll (h : old.toList ∈ placeholders) (text new : String) :
    (replaceAll text old new).toList = fill [(old.toList, new.toList)] text.toList := by
  rw [replaceAll_eq text new (ne_nil_of_mem h), String.toList_ofList]

end Step

/-! ### What the steps come to -/

/-- The template with all placeholders filled in at once, for two texts that come from a name. -/
def filled (kind : DeviceKind) (shown literal : String) : String :=
  String.ofList (fill
    [(namePlaceholder.toList, shown.toList), (literalPlaceholder.toList, literal.toList),
      (kindPlaceholder.toList, kind.name.toList),
      (bodyPlaceholder.toList, (dropFinalNewlines (body kind)).toList)]
    template.toList)

/-- What the last two steps make of a text that the first two have brought in. -/
def expanded (kind : DeviceKind) (text : String) : String :=
  replaceAll (replaceAll text kindPlaceholder kind.name) bodyPlaceholder
    (dropFinalNewlines (body kind))

theorem toList_filled (kind : DeviceKind) (shown literal : String) :
    (filled kind shown literal).toList = frame.around shown.toList kind.name.toList literal.toList
      (dropFinalNewlines (body kind)).toList := by
  rw [filled, String.toList_ofList, template_eq.1, fill_around]
  · rw [fill_whole (by decide) rfl, fill_whole (by decide) rfl, fill_whole (by decide) rfl,
      fill_whole (by decide) rfl]
  · obtain ⟨hname, hliteral, hkind, hbody⟩ := mem_placeholders
    intro slot hslot
    simp only [List.mem_cons, List.not_mem_nil, or_false] at hslot
    rcases hslot with rfl | rfl | rfl | rfl
    · exact hname
    · exact hliteral
    · exact hkind
    · exact hbody

/-- Two texts that come from a name stand at two places, in a text that the kind alone decides. -/
theorem filled_eq (kind : DeviceKind) (shown literal : String) :
    filled kind shown literal = String.ofList frame.heading ++ shown ++
      String.ofList (frame.opening ++ kind.name.toList ++ frame.call) ++ literal ++
      String.ofList (frame.level ++ (dropFinalNewlines (body kind)).toList ++ frame.ending) := by
  refine String.toList_inj.mp ?_
  rw [toList_filled]
  simp only [Frame.around, String.toList_append, String.toList_ofList, List.append_assoc]

theorem toList_render (name : String) (kind : DeviceKind) :
    (render name kind).toList = frame.around (expanded kind name).toList kind.name.toList
      (expanded kind (replaceAll (Text.literal name) namePlaceholder name)).toList
      (dropFinalNewlines (body kind)).toList := by
  obtain ⟨hname, hliteral, hkind, hbody⟩ := mem_placeholders
  have hfree : ¬ Occurs bodyPlaceholder kind.name := by cases kind <;> decide
  rw [render, toList_replaceAll hbody, toList_replaceAll hkind, toList_replaceAll hname,
    toList_replaceAll hliteral, template_eq.1]
  rw [fill_around (ours_singleton hliteral), fill_self hliteral,
    fill_other hliteral hname (by decide), fill_other hliteral hkind (by decide),
    fill_other hliteral hbody (by decide)]
  rw [fill_around (ours_singleton hname), fill_self hname, fill_other hname hkind (by decide),
    fill_other hname hbody (by decide)]
  rw [fill_around (ours_singleton hkind), fill_self hkind, fill_other hkind hbody (by decide)]
  rw [fill_around (ours_singleton hbody), fill_self hbody, fill_of_free (free_singleton hfree)]
  simp only [expanded, toList_replaceAll hbody, toList_replaceAll hkind, toList_replaceAll hname]

/-- **A scaffold is filled in at once**, but with what the later steps make of the two texts that
come from the name. -/
theorem render_eq_filled (name : String) (kind : DeviceKind) :
    render name kind = filled kind (expanded kind name)
      (expanded kind (replaceAll (Text.literal name) namePlaceholder name)) :=
  String.toList_inj.mp (by rw [toList_render, toList_filled])

/-! ### Names with placeholders and without -/

theorem replaceAll_of_not_occurs {old text : String} (h : old.toList ∈ placeholders)
    (ho : ¬ Occurs old text) (new : String) : replaceAll text old new = text :=
  String.toList_inj.mp (by rw [toList_replaceAll h, fill_of_free (free_singleton ho)])

theorem expanded_of_not_occurs {text : String} (hk : ¬ Occurs kindPlaceholder text)
    (hb : ¬ Occurs bodyPlaceholder text) (kind : DeviceKind) : expanded kind text = text := by
  obtain ⟨-, -, hkind, hbody⟩ := mem_placeholders
  rw [expanded, replaceAll_of_not_occurs hkind hk, replaceAll_of_not_occurs hbody hb]

theorem not_occurs_literal {old name : String} (h : old.toList ∈ placeholders)
    (ho : ¬ Occurs old name) : ¬ Occurs old (Text.literal name) := by
  have hall : ∀ old ∈ placeholders, old.head? = some '@' ∧ '"' ∉ old ∧ '\\' ∉ old := by decide
  obtain ⟨hhead, hquote, hslash⟩ := hall _ h
  exact fun hl => ho (Text.infix_of_infix_literal hhead hquote hslash hl)

theorem head_dropFinalNewlines {s : String} {c d : Char} (hc : s.toList.head? = some c)
    (hd : d ∈ s.toList) (hne : d ≠ '\n') : (dropFinalNewlines s).toList.head? = some c := by
  have heq : (dropFinalNewlines s).toList = s.toList.rdropWhile (· = '\n') := String.toList_ofList
  obtain ⟨rest, hrest⟩ := List.rdropWhile_prefix (fun c : Char => decide (c = '\n')) (l := s.toList)
  rw [heq]
  cases hdrop : s.toList.rdropWhile (· = '\n') with
  | nil => exact absurd (of_decide_eq_true (List.rdropWhile_eq_nil_iff.mp hdrop d hd)) hne
  | cons a l => rw [← hc, ← hrest, hdrop]; rfl

theorem head_kind (kind : DeviceKind) :
    (∃ c rest, kind.name.toList = c :: rest ∧ c ≠ '@' ∧ c ∉ bodyPlaceholder.toList) ∧
    ∃ c, (dropFinalNewlines (body kind)).toList.head? = some c ∧ c ≠ '@' := by
  have hbody : ∃ line rest, body kind = lines ("" :: line :: rest) ∧ ' ' ∈ line.toList := by
    cases kind <;> exact ⟨_, _, rfl, by decide⟩
  obtain ⟨line, rest, hlines, hspace⟩ := hbody
  have hlist : (body kind).toList = '\n' :: (line.toList ++ ['\n'] ++ (lines rest).toList) := by
    rw [hlines, toList_lines, toList_lines]
    rfl
  refine ⟨?_, '\n', head_dropFinalNewlines (d := ' ') ?_ ?_ (by decide), by decide⟩
  · cases kind <;> exact ⟨_, _, rfl, by decide, by decide⟩
  · rw [hlist]; rfl
  · rw [hlist]; simp [hspace]

/-- **A name with a later placeholder does not stay as it is**, not even up to its length. -/
theorem not_occurs_of_expanded {kind : DeviceKind} {name : String} {ys zs : List Char}
    (h : (expanded kind name).toList ++ ys = name.toList ++ zs) :
    ¬ Occurs kindPlaceholder name ∧ ¬ Occurs bodyPlaceholder name := by
  obtain ⟨-, -, hkind, hbody⟩ := mem_placeholders
  obtain ⟨⟨c, rest, hc, hmark, hcut⟩, hu⟩ := head_kind kind
  set slots : Slots := [(bodyPlaceholder.toList, (dropFinalNewlines (body kind)).toList)]
  have hm : slots.Marked '@' := (ours_singleton hbody).marked
  have hslots : slots.Unmarking '@' := fun slot hslot => by
    rw [List.mem_singleton] at hslot
    simpa only [hslot] using hu
  rw [expanded, toList_replaceAll hbody, toList_replaceAll hkind] at h
  have hk : ¬ Occurs kindPlaceholder name := by
    intro hk
    obtain ⟨before, behind, hname, hfill⟩ :=
      exists_first kind.name.toList (ours_singleton hkind).marked hk
    -- where the placeholder stood the kind begins now, and its first letter cuts the text
    rw [hfill, hc, List.append_assoc, List.cons_append, fill_cut hm fun _ hslot => ?_,
      List.append_assoc, hname, List.append_assoc, List.append_assoc] at h
    · rw [fill_of_free (free_of_fill hm hslots h)] at h
      have hhead := congrArg List.head? (List.append_cancel_left h)
      exact hmark (Option.some.inj hhead)
    · rw [List.mem_singleton.mp hslot]
      exact hcut
  refine ⟨hk, fun hb => ?_⟩
  rw [fill_of_free (free_singleton hk)] at h
  exact free_of_fill hm hslots h _ List.mem_cons_self hb

theorem not_occurs_of_render {name literal : String} {kind : DeviceKind}
    (h : render name kind = filled kind name literal) :
    ¬ Occurs kindPlaceholder name ∧ ¬ Occurs bodyPlaceholder name := by
  have hlists := congrArg String.toList h
  rw [toList_render, toList_filled] at hlists
  simp only [Frame.around, List.append_assoc] at hlists
  exact not_occurs_of_expanded (List.append_cancel_left hlists)

/-- **Scaffolds fill in the name as it is, if no placeholder occurs in it.** In the scaffold of any
name the placeholders of the template are filled in at once, and what stands in the two places of
the name is what the later steps make of the name and of its literal. That is the name and the
literal themselves if the name has none of the three later placeholders. It is not if the name has
one for the kind or the body. Apart from the two places the kind alone decides the text, so two
scaffolds of a kind differ there only. -/
theorem plain_names_stand_as_they_are (name : String) (kind : DeviceKind) :
    render name kind = filled kind (expanded kind name)
      (expanded kind (replaceAll (Text.literal name) namePlaceholder name)) ∧
    ((∀ old ∈ [namePlaceholder, kindPlaceholder, bodyPlaceholder], ¬ Occurs old name) →
      render name kind = filled kind name (Text.literal name)) ∧
    (Occurs kindPlaceholder name ∨ Occurs bodyPlaceholder name →
      render name kind ≠ filled kind name (Text.literal name)) ∧
    ∃ before between behind : String, ∀ shown literal,
      filled kind shown literal = before ++ shown ++ between ++ literal ++ behind := by
  refine ⟨render_eq_filled name kind, fun hplain => ?_, fun hoccurs heq => ?_,
    ⟨_, _, _, filled_eq kind⟩⟩
  · obtain ⟨hname, -, hkind, hbody⟩ := mem_placeholders
    have hn : ¬ Occurs namePlaceholder name := hplain _ (by decide)
    have hk : ¬ Occurs kindPlaceholder name := hplain _ (by decide)
    have hb : ¬ Occurs bodyPlaceholder name := hplain _ (by decide)
    rw [render_eq_filled, expanded_of_not_occurs hk hb,
      replaceAll_of_not_occurs hname (not_occurs_literal hname hn),
      expanded_of_not_occurs (not_occurs_literal hkind hk) (not_occurs_literal hbody hb)]
  · obtain ⟨hk, hb⟩ := not_occurs_of_render heq
    rcases hoccurs with h | h
    · exact hk h
    · exact hb h

/-- A name with quotes in it stands as it is, and one with a placeholder for the body does not. -/
theorem quoted_name_stands_as_it_is :
    ((∀ old ∈ [namePlaceholder, kindPlaceholder, bodyPlaceholder],
      ¬ Occurs old "Bit \"Crusher\"") ∧
    render "Bit \"Crusher\"" .audioEffect =
      filled .audioEffect "Bit \"Crusher\"" (Text.literal "Bit \"Crusher\"")) ∧
    (Occurs bodyPlaceholder "@BODY@" ∧
    render "@BODY@" .instrument ≠ filled .instrument "@BODY@" (Text.literal "@BODY@")) := by
  have hplain : ∀ old ∈ [namePlaceholder, kindPlaceholder, bodyPlaceholder],
      ¬ Occurs old "Bit \"Crusher\"" := by decide
  have hbody : Occurs bodyPlaceholder "@BODY@" := by decide
  refine ⟨⟨hplain, ?_⟩, hbody, ?_⟩
  · exact (plain_names_stand_as_they_are _ .audioEffect).2.1 hplain
  · exact (plain_names_stand_as_they_are _ .instrument).2.2.1 (Or.inr hbody)

/-- A name with a placeholder for the kind is expanded, where all at once would have kept it. -/
theorem name_with_placeholder_is_expanded :
    expanded .audioEffect "x@CONSTRUCTOR@" = "xaudio_effect" ∧
    render "x@CONSTRUCTOR@" .audioEffect ≠
      filled .audioEffect "x@CONSTRUCTOR@" (Text.literal "x@CONSTRUCTOR@") := by
  obtain ⟨-, -, hkind, hbody⟩ := mem_placeholders
  have hstep : replaceAll "x@CONSTRUCTOR@" kindPlaceholder (DeviceKind.audioEffect).name =
      "xaudio_effect" := String.toList_inj.mp (by rw [toList_replaceAll hkind]; decide)
  refine ⟨?_, fun heq => (not_occurs_of_render heq).1 (by decide)⟩
  rw [expanded, hstep, replaceAll_of_not_occurs hbody (by decide)]

end Scaffold

end MaxPatch
