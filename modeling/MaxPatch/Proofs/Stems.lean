import Mathlib
import MaxPatch.Command.Run
import MaxPatch.Files.Tree
import MaxPatch.Proofs.Paths

/-! # Stems: the names of the files of scaffolds

The name of a device becomes a stem character by character: `snakeStep` looks at the end of what it
has so far, and an underscore that is left at the end is dropped. This comes to the same as cutting
the name into its longest runs of letters and digits, and joining these in lower case with
underscores (`toList_snakeCase`). What carries the loop is `soFar`: the runs that are over, and the
one that may go on.

So what comes out is a stem (`IsStem`, `isStem_spelled`), which has no underscore at either end and
never two side by side. Such a text is its own stem (`snakeCase_eq_self`), and with an ending it is
the name of a file that lies where it should. -/

namespace MaxPatch.Scaffold

/-! ### Characters -/

/-- A small letter or a digit. -/
def IsSmall (c : Char) : Prop := c.isLower = true ∨ c.isDigit = true

theorem not_isUpper_of_isDigit {c : Char} (h : c.isDigit = true) : c.isUpper = false := by
  simp only [Char.isDigit, Char.isUpper] at h ⊢
  grind

theorem isSmall_toLower {c : Char} (h : c.isAlphanum = true) : IsSmall c.toLower := by
  rcases Bool.or_eq_true_iff.mp h with h | h
  · exact Or.inl (by rw [Char.isLower_toLower_eq_isAlpha, h])
  · rw [Char.toLower_eq_of_not_isUpper (by simp [not_isUpper_of_isDigit h])]
    exact Or.inr h

variable {c : Char}

theorem IsSmall.toLower (h : IsSmall c) : c.toLower = c := by
  refine Char.toLower_eq_of_not_isUpper ?_
  rcases h with h | h
  · exact Char.not_isUpper_of_isLower h
  · simp [not_isUpper_of_isDigit h]

theorem IsSmall.isAlphanum (h : IsSmall c) : c.isAlphanum = true := by
  rcases h with h | h
  · simp [Char.isAlphanum, Char.isAlpha, h]
  · simp [Char.isAlphanum, h]

theorem IsSmall.ne_underscore (h : IsSmall c) : c ≠ '_' := by
  rintro rfl
  unfold IsSmall at h
  exact absurd h (by decide)

/-! ### Stems -/

/-- Two characters that may stand side by side: they are not both underscores. -/
def Beside (c d : Char) : Prop := c ≠ '_' ∨ d ≠ '_'

/-- **What a stem looks like**: small letters, digits and underscores, none of which is at an end of
it or next to another. -/
structure IsStem (cs : List Char) : Prop where
  chars : ∀ c ∈ cs, IsSmall c ∨ c = '_'
  head : ∀ c ∈ cs.head?, c ≠ '_'
  last : ∀ c ∈ cs.getLast?, c ≠ '_'
  beside : cs.IsChain Beside

theorem isStem_of_forall {word : List Char} (h : ∀ c ∈ word, IsSmall c) : IsStem word where
  chars := fun c hc => Or.inl (h c hc)
  head := fun c hc => (h c (List.mem_of_mem_head? hc)).ne_underscore
  last := fun c hc => (h c (List.mem_of_getLast? hc)).ne_underscore
  beside := (List.pairwise_of_forall_mem_list fun c hc _ _ =>
    Or.inl (h c hc).ne_underscore).isChain

theorem IsStem.concat {cs word : List Char} (h : IsStem cs) (hcs : cs ≠ [])
    (hword : ∀ c ∈ word, IsSmall c) (hne : word ≠ []) : IsStem (cs ++ '_' :: word) := by
  have hstem := isStem_of_forall hword
  obtain ⟨c, cs, rfl⟩ := List.exists_cons_of_ne_nil hcs
  obtain ⟨d, word, rfl⟩ := List.exists_cons_of_ne_nil hne
  refine ⟨fun e he => ?_, h.head, ?_, ?_⟩
  · rcases List.mem_append.mp he with he | he
    · exact h.chars e he
    · rcases List.mem_cons.mp he with rfl | he
      · exact Or.inr rfl
      · exact hstem.chars e he
  · rw [List.getLast?_append, List.getLast?_cons_cons]
    simpa using hstem.last
  · refine List.isChain_append.mpr ⟨h.beside, ?_, fun e he _ _ => Or.inl (h.last e he)⟩
    exact List.isChain_cons_cons.mpr ⟨Or.inr (hstem.head d rfl), hstem.beside⟩

/-! ### The loop -/

/-- The last character so far; at the beginning it is as if there were an underscore. -/
def lastSoFar (acc : List Char) : Char := acc.head?.getD '_'

theorem snakeStep_of_isAlphanum (acc : List Char) (h : c.isAlphanum = true) :
    snakeStep acc c = c.toLower :: acc := by
  rw [snakeStep.eq_def, if_pos h]

theorem snakeStep_of_not_isAlphanum (acc : List Char) (h : c.isAlphanum = false) :
    snakeStep acc c = if lastSoFar acc = '_' then acc else '_' :: acc := by
  rw [snakeStep.eq_def, if_neg (by simp [h])]
  split
  · rfl
  · rfl
  · next hnil hunderscore =>
    cases acc with
    | nil => exact absurd rfl hnil
    | cons d acc =>
      have hd : d ≠ '_' := fun hd => hunderscore acc (by rw [hd])
      exact (if_neg hd).symm

theorem foldl_snakeStep_eq {cs acc : List Char} (hchars : ∀ c ∈ cs, IsSmall c ∨ c = '_')
    (hbeside : (lastSoFar acc :: cs).IsChain Beside) :
    cs.foldl snakeStep acc = cs.reverse ++ acc := by
  induction cs generalizing acc with
  | nil => rfl
  | cons c cs ih =>
    obtain ⟨hc, hrest⟩ := List.isChain_cons_cons.mp hbeside
    have hstep : snakeStep acc c = c :: acc := by
      rcases hchars c List.mem_cons_self with hsmall | rfl
      · rw [snakeStep_of_isAlphanum acc hsmall.isAlphanum, hsmall.toLower]
      · have hlast : lastSoFar acc ≠ '_' := hc.resolve_right (fun h => h rfl)
        rw [snakeStep_of_not_isAlphanum acc (by decide), if_neg hlast]
    have hchars' : ∀ d ∈ cs, IsSmall d ∨ d = '_' :=
      fun d hd => hchars d (List.mem_cons_of_mem c hd)
    have hbeside' : (lastSoFar (c :: acc) :: cs).IsChain Beside := hrest
    rw [List.foldl_cons, hstep, ih hchars' hbeside', List.reverse_cons, List.append_assoc,
      List.singleton_append]

theorem dropWhile_underscore {cs : List Char} (h : ∀ c ∈ cs.head?, c ≠ '_') :
    cs.dropWhile (· = '_') = cs := by
  cases cs with
  | nil => rfl
  | cons c cs => exact List.dropWhile_cons_of_neg (by simpa using h c rfl)

/-- **A stem is its own stem.** -/
theorem snakeCase_eq_self {text : String} (h : IsStem text.toList) : snakeCase text = text := by
  have hbeside : (lastSoFar [] :: text.toList).IsChain Beside := by
    cases hlist : text.toList with
    | nil => exact List.isChain_singleton _
    | cons c cs =>
      have hc : c ≠ '_' := h.head c (by rw [hlist]; rfl)
      exact List.isChain_cons_cons.mpr ⟨Or.inr hc, hlist ▸ h.beside⟩
  have hlast : ∀ c ∈ text.toList.reverse.head?, c ≠ '_' := by
    rw [List.head?_reverse]
    exact h.last
  rw [snakeCase, foldl_snakeStep_eq h.chars hbeside, List.append_nil, dropWhile_underscore hlast,
    List.reverse_reverse, String.ofList_toList]

/-! ### Runs -/

/-- The longest runs of letters and digits of a text. -/
def runsOf (cs : List Char) : List (List Char) := pieces (fun c => !c.isAlphanum) cs

/-- The longest runs of letters and digits of a name. -/
def runs (name : String) : List String := (runsOf name.toList).map String.ofList

/-- Runs in lower case, joined with underscores. -/
def spelled (rs : List (List Char)) : List Char :=
  ['_'].intercalate (rs.map (·.map Char.toLower))

/-- What comes before a last run. -/
def lead (rs : List (List Char)) : List Char := if rs = [] then [] else spelled rs ++ ['_']

theorem spelled_cons (run : List Char) {rs : List (List Char)} (h : rs ≠ []) :
    spelled (run :: rs) = run.map Char.toLower ++ '_' :: spelled rs := by
  have hmap : rs.map (·.map Char.toLower) ≠ [] := by simpa using h
  rw [spelled, List.map_cons, List.intercalate_cons_of_ne_nil hmap, List.append_assoc,
    List.singleton_append, ← spelled]

theorem spelled_concat (rs : List (List Char)) (run : List Char) :
    spelled (rs ++ [run]) = lead rs ++ run.map Char.toLower := by
  induction rs with
  | nil => simp [spelled, lead]
  | cons r rs ih =>
    rw [List.cons_append, spelled_cons r (by simp), ih]
    by_cases h : rs = []
    · simp [h, lead, spelled]
    · simp [h, lead, spelled_cons r h]

/-- Letters and digits, and at least one of them. -/
def IsRun (run : List Char) : Prop := run ≠ [] ∧ ∀ c ∈ run, c.isAlphanum = true

theorem isRun_of_mem {cs run : List Char} (h : run ∈ runsOf cs) : IsRun run := by
  have hstretch := (mem_pieces_iff cs).mp h
  exact ⟨hstretch.ne_nil, fun c hc => by simpa using hstretch.free c hc⟩

section Spelled
variable {rs : List (List Char)} (hrs : ∀ run ∈ rs, IsRun run)
include hrs

theorem spelled_eq_nil_iff : spelled rs = [] ↔ rs = [] := by
  refine ⟨fun h => ?_, fun h => by rw [h]; rfl⟩
  rcases List.eq_nil_or_concat' rs with hnil | ⟨init, run, rfl⟩
  · exact hnil
  · rw [spelled_concat, List.append_eq_nil_iff, List.map_eq_nil_iff] at h
    exact absurd h.2 (hrs run (by simp)).1

/-- **What is spelled is a stem.** -/
theorem isStem_spelled : IsStem (spelled rs) := by
  induction rs using List.reverseRecOn with
  | nil => exact isStem_of_forall (by simp [spelled])
  | append_singleton rs run ih =>
    obtain ⟨hinit, hrun⟩ := List.forall_mem_append.mp hrs
    obtain ⟨hne, hchars⟩ := hrun run List.mem_cons_self
    have hword : ∀ c ∈ run.map Char.toLower, IsSmall c :=
      List.forall_mem_map.mpr fun c hc => isSmall_toLower (hchars c hc)
    rw [spelled_concat, lead]
    split_ifs with h
    · exact isStem_of_forall hword
    · rw [List.append_assoc]
      exact (ih hinit).concat ((spelled_eq_nil_iff hinit).not.mpr h) hword (by simpa using hne)

end Spelled

/-! ### What the loop spells -/

/-- **What there is of a stem** after some runs and a last one that may go on, in reverse order. -/
def soFar (rs : List (List Char)) (last : List Char) : List Char :=
  last.map Char.toLower ++ (lead rs).reverse

/-- A run that is over, if it has begun. -/
def ended (last : List Char) : List (List Char) := [last.reverse].filter (· ≠ [])

theorem snakeStep_soFar_of_isAlphanum (rs : List (List Char)) (last : List Char)
    (hc : c.isAlphanum = true) : snakeStep (soFar rs last) c = soFar rs (c :: last) := by
  rw [snakeStep_of_isAlphanum _ hc, soFar, soFar, List.map_cons, List.cons_append]

theorem snakeStep_soFar_of_not_isAlphanum (rs : List (List Char)) {last : List Char}
    (hlast : ∀ d ∈ last, d.isAlphanum = true) (hc : c.isAlphanum = false) :
    snakeStep (soFar rs last) c = soFar (rs ++ ended last) [] := by
  rw [snakeStep_of_not_isAlphanum _ hc]
  cases last with
  | nil =>
    have hunderscore : lastSoFar (soFar rs []) = '_' := by
      unfold soFar lead
      split_ifs <;> simp [lastSoFar]
    rw [if_pos hunderscore]
    simp [ended]
  | cons d last =>
    have hd : lastSoFar (soFar rs (d :: last)) ≠ '_' :=
      (isSmall_toLower (hlast d List.mem_cons_self)).ne_underscore
    rw [if_neg hd]
    simp [ended, soFar, lead, spelled_concat]

/-- **What is left at the end**, after all runs. -/
theorem dropWhile_soFar {rs : List (List Char)} (hrs : ∀ run ∈ rs, IsRun run) {last : List Char}
    (hlast : ∀ d ∈ last, d.isAlphanum = true) :
    ((soFar rs last).dropWhile (· = '_')).reverse = spelled (rs ++ ended last) := by
  cases last with
  | nil =>
    have hhead : ∀ c ∈ (spelled rs).reverse.head?, c ≠ '_' := by
      rw [List.head?_reverse]
      exact (isStem_spelled hrs).last
    have hended : rs ++ ended [] = rs := List.append_nil rs
    rw [hended, soFar, lead, List.map_nil, List.nil_append]
    split_ifs with h
    · rw [h]; rfl
    · rw [List.reverse_append, List.reverse_singleton, List.singleton_append,
        List.dropWhile_cons_of_pos (by decide), dropWhile_underscore hhead, List.reverse_reverse]
  | cons d last =>
    have hd : d.toLower ≠ '_' := (isSmall_toLower (hlast d List.mem_cons_self)).ne_underscore
    have hhead : ∀ c ∈ (soFar rs (d :: last)).head?, c ≠ '_' := by simpa [soFar] using hd
    have hended : ended (d :: last) = [(d :: last).reverse] := by simp [ended]
    rw [dropWhile_underscore hhead, hended, spelled_concat, soFar, List.reverse_append,
      List.reverse_reverse, List.map_reverse]

theorem isRun_ended {last : List Char} (h : ∀ d ∈ last, d.isAlphanum = true) :
    ∀ run ∈ ended last, IsRun run := by
  intro run hrun
  obtain ⟨hrun, hne⟩ := List.mem_filter.mp hrun
  rw [List.mem_singleton] at hrun
  subst hrun
  exact ⟨by simpa using hne, fun c hc => h c (List.mem_reverse.mp hc)⟩

/-- **The loop spells the runs.** -/
theorem foldl_snakeStep_soFar {rs : List (List Char)} (hrs : ∀ run ∈ rs, IsRun run)
    {last : List Char} (hlast : ∀ d ∈ last, d.isAlphanum = true) (cs : List Char) :
    ((cs.foldl snakeStep (soFar rs last)).dropWhile (· = '_')).reverse =
      spelled (rs ++ (cs.splitOnPPrepend (fun c => !c.isAlphanum) last).filter (· ≠ [])) := by
  induction cs generalizing rs last with
  | nil => exact dropWhile_soFar hrs hlast
  | cons c cs ih =>
    rw [List.foldl_cons]
    cases hc : c.isAlphanum with
    | true =>
      have hlast' : ∀ d ∈ c :: last, d.isAlphanum = true := List.forall_mem_cons.mpr ⟨hc, hlast⟩
      rw [snakeStep_soFar_of_isAlphanum rs last hc, ih hrs hlast',
        List.splitOnPPrepend_cons_neg (by rw [hc]; rfl)]
    | false =>
      have hrs' : ∀ run ∈ rs ++ ended last, IsRun run :=
        List.forall_mem_append.mpr ⟨hrs, isRun_ended hlast⟩
      rw [snakeStep_soFar_of_not_isAlphanum rs hlast hc, ih hrs' (by simp),
        List.splitOnPPrepend_cons_pos (by rw [hc]; rfl), List.splitOnPPrepend_nil_right,
        List.append_assoc, ended, ← List.filter_append]
      rfl

theorem toList_snakeCase (name : String) :
    (snakeCase name).toList = spelled (runsOf name.toList) := by
  rw [snakeCase, String.toList_ofList]
  exact foldl_snakeStep_soFar (List.forall_mem_nil _) (List.forall_mem_nil _) name.toList

/-! ### Stems of names -/

theorem isStem_snakeCase (name : String) : IsStem (snakeCase name).toList := by
  rw [toList_snakeCase]
  exact isStem_spelled fun _ => isRun_of_mem

/-- **A stem is the runs of the name** in lower case, joined with underscores. -/
theorem snakeCase_eq (name : String) :
    snakeCase name = "_".intercalate ((runs name).map String.toLower) := by
  refine String.toList_inj.mp ?_
  rw [toList_snakeCase, String.toList_intercalate, runs, List.map_map, List.map_map, spelled]
  refine congrArg (['_'].intercalate ·) (List.map_congr_left fun run _ => ?_)
  simp [String.toLower]

theorem snakeCase_eq_empty_iff (name : String) :
    snakeCase name = "" ↔ ∀ c ∈ name.toList, c.isAlphanum = false := by
  rw [← String.toList_eq_nil_iff, toList_snakeCase, spelled_eq_nil_iff fun _ => isRun_of_mem,
    runsOf, pieces_eq_nil_iff]
  simp only [Bool.not_eq_true']

/-- A run that does not ask for another name. -/
def Accepts (r : Report) : Prop := r.result ≠ .error .namelessDevice

theorem runScaffold_accepts {name : String} (h : snakeCase name ≠ "") (kind : DeviceKind)
    (folder : String) (files : FileTree) :
    Accepts ((Command.runScaffold name kind folder : StateM FileTree Report) files).1 := by
  unfold Command.runScaffold
  rw [if_neg h]
  refine FileTree.answer_bind Accepts _ (fun there files => ?_) files
  cases there with
  | true => exact fun h => nomatch h
  | false =>
    refine FileTree.answer_bind Accepts _ (fun made files => ?_) files
    cases made with
    | error => exact fun h => nomatch h
    | ok =>
      dsimp only
      refine FileTree.answer_bind Accepts _ (fun written files => ?_) files
      cases written <;> exact fun h => nomatch h

/-- **A name is refused** if and only if it has no stem. -/
theorem runScaffold_refuses_iff (name : String) (kind : DeviceKind) (folder : String)
    (files : FileTree) :
    ((Command.runScaffold name kind folder : StateM FileTree Report) files).1.result =
      .error .namelessDevice ↔ snakeCase name = "" := by
  refine ⟨fun hresult => ?_, fun h => ?_⟩
  · by_contra h
    exact runScaffold_accepts h kind folder files hresult
  · unfold Command.runScaffold
    simp only [h]
    rfl

theorem isPlain_snakeCase (name : String) : Path.IsPlain (snakeCase name ++ ".rs") := by
  refine Path.isPlain_append (fun h => ?_) (by decide) (by decide)
  rcases (isStem_snakeCase name).chars _ h with h | h
  · exact absurd h.isAlphanum (by decide)
  · exact absurd h (by decide)

/-- **Stems are canonical and safe.** The stem of a name is its longest runs of letters and digits
in lower case, joined with underscores. So it has nothing but small letters, digits and single
underscores between them, and any text like that is its own stem. It is empty if and only if the
name has neither letters nor digits, and then, and only then, no scaffold is made for want of a
name. With its ending a stem is the name of a file in the folder that is asked for. -/
theorem stems_are_joined_runs :
    (∀ name, snakeCase name = "_".intercalate ((runs name).map String.toLower)) ∧
    (∀ name run, run ∈ runs name ↔
      IsStretch (fun c => !c.isAlphanum) run.toList name.toList) ∧
    (∀ name, IsStem (snakeCase name).toList) ∧
    (∀ text, snakeCase text = text ↔ IsStem text.toList) ∧
    (∀ name, snakeCase (snakeCase name) = snakeCase name) ∧
    (∀ name, snakeCase name = "" ↔ ∀ c ∈ name.toList, c.isAlphanum = false) ∧
    (∀ name kind folder (files : FileTree),
      ((Command.runScaffold name kind folder : StateM FileTree Report) files).1.result =
        .error .namelessDevice ↔ snakeCase name = "") ∧
    ∀ name folder, Path.LiesIn (Path.join folder (snakeCase name ++ ".rs")) folder
      (snakeCase name ++ ".rs") := by
  refine ⟨snakeCase_eq, fun name run => ?_, isStem_snakeCase, fun text => ⟨fun h => ?_, ?_⟩,
    fun name => ?_, snakeCase_eq_empty_iff, runScaffold_refuses_iff, fun name folder => ?_⟩
  · rw [← mem_pieces_iff, runs, List.mem_map]
    refine ⟨?_, fun h => ⟨run.toList, h, String.ofList_toList⟩⟩
    rintro ⟨part, hpart, rfl⟩
    rwa [String.toList_ofList]
  · exact h ▸ isStem_snakeCase text
  · exact snakeCase_eq_self
  · exact snakeCase_eq_self (isStem_snakeCase name)
  · exact Path.liesIn_join folder (isPlain_snakeCase name)

/-- What is between the runs does not count. -/
example : snakeCase "  --Lo-Fi  Échö 2!" = "lo_fi_ch_2" := by decide

end MaxPatch.Scaffold
