import MaxPatch.Files.Path
import MaxPatch.Proofs.Pieces

/-! # Paths: what they say

Two texts can be one path: slashes in a row count as one, a slash at the end counts for nothing, and
so does a dot, unless a path from where one works begins with it. What is left are the `parts` of a
path. In these terms to join a plain name, one without a slash, is to add a last name
(`parts_join`). -/

namespace MaxPatch.Path

/-! ### Names -/

theorem split_eq (cs : List Char) : split cs = cs.splitOnP (· = '/') := by
  induction cs with
  | nil => rfl
  | cons c cs ih =>
    rw [split, ih, List.splitOnP_cons_eq_if_modifyHead]
    obtain ⟨part, parts, hparts⟩ :=
      List.exists_cons_of_ne_nil (List.splitOnP_ne_nil (fun c => decide (c = '/')) cs)
    rw [hparts]
    by_cases hc : c = '/'
    · rw [if_pos hc, if_pos (decide_eq_true hc)]
    · rw [if_neg hc, if_neg (by simpa using hc)]
      rfl

theorem names_eq (path : String) :
    names path = (pieces (· = '/') path.toList).map String.ofList := by
  rw [names, split_eq, pieces]

theorem slash_not_mem {path name : String} (h : name ∈ names path) : '/' ∉ name.toList := by
  rw [names_eq] at h
  obtain ⟨part, hpart, rfl⟩ := List.mem_map.mp h
  rw [String.toList_ofList]
  intro hslash
  exact absurd (((mem_pieces_iff _).mp hpart).free _ hslash) (by decide)

theorem names_slash (folder name : String) :
    names (folder ++ "/" ++ name) = names folder ++ names name := by
  have hlist : (folder ++ "/" ++ name).toList = folder.toList ++ '/' :: name.toList := by
    simp
  rw [names_eq, hlist, pieces_append_cons _ _ (by decide), List.map_append, ← names_eq, ← names_eq]

/-! ### Parts -/

/-- What a path says: whether it starts at the root, and the names on the way. -/
structure Parts where
  rooted : Bool
  names : List String
  deriving DecidableEq, Repr

/-- The names that count. A dot does if a path from where one works begins with it. -/
def counting (rooted : Bool) (all : List String) : List String :=
  if rooted then all.filter (· ≠ ".") else all.take 1 ++ (all.drop 1).filter (· ≠ ".")

/-- The parts of a path. -/
def parts (path : String) : Parts where
  rooted := isAbsolute path
  names := counting (isAbsolute path) (names path)

namespace Parts

/-- What is left without the last name. -/
def parent? (p : Parts) : Option Parts :=
  if p.names = [] then none else some { p with names := p.names.dropLast }

/-- The last name. -/
def last? (p : Parts) : Option String := p.names.getLast?

/-- The path to a name in a directory. -/
def child (p : Parts) (name : String) : Parts := { p with names := p.names ++ [name] }

variable {p q : Parts} {name : String}

theorem eq_child_iff : p = q.child name ↔ p.parent? = some q ∧ p.last? = some name := by
  obtain ⟨rooted, names⟩ := p
  obtain ⟨rooted', names'⟩ := q
  constructor
  · intro h
    rw [h]
    simp [child, parent?, last?]
  · rintro ⟨hparent, hlast⟩
    obtain ⟨init, rfl⟩ := List.getLast?_eq_some_iff.mp hlast
    simpa [child, parent?] using hparent

end Parts

/-- The name of a file or a directory, which leads nowhere else. -/
structure IsPlain (name : String) : Prop where
  ne_empty : name ≠ ""
  ne_dot : name ≠ "."
  ne_dots : name ≠ ".."
  slash_not_mem : '/' ∉ name.toList

theorem isPlain_append {stem ending : String} (hstem : '/' ∉ stem.toList)
    (hslash : '/' ∉ ending.toList) (hlength : 2 < ending.toList.length) :
    IsPlain (stem ++ ending) := by
  have hlong : 2 < (stem ++ ending).toList.length := by
    rw [String.toList_append, List.length_append]
    omega
  have hne : ∀ s : String, s.toList.length ≤ 2 → stem ++ ending ≠ s := fun s hs heq => by
    rw [heq] at hlong
    omega
  refine ⟨hne _ (by decide), hne _ (by decide), hne _ (by decide), ?_⟩
  rw [String.toList_append, List.mem_append, not_or]
  exact ⟨hstem, hslash⟩

variable {name : String}

theorem counting_concat (rooted : Bool) (all : List String) (h : name ≠ ".") :
    counting rooted (all ++ [name]) = counting rooted all ++ [name] := by
  unfold counting
  cases rooted with
  | true => simp [h]
  | false =>
    cases all with
    | nil => rfl
    | cons first rest => simp [h]

theorem IsPlain.names_eq (h : IsPlain name) : names name = [name] := by
  have hne : name.toList ≠ [] := fun hnil => h.ne_empty (String.toList_eq_nil_iff.mp hnil)
  have hfree : ∀ c ∈ name.toList, decide (c = '/') = false := fun c hc =>
    decide_eq_false fun heq => h.slash_not_mem (heq ▸ hc)
  rw [Path.names_eq, pieces_of_forall hne hfree, List.map_singleton, String.ofList_toList]

theorem IsPlain.not_isAbsolute (h : IsPlain name) : isAbsolute name = false :=
  decide_eq_false fun hhead => h.slash_not_mem (List.mem_of_mem_head? hhead)

theorem isAbsolute_append {folder : String} (h : folder ≠ "") (rest : String) :
    isAbsolute (folder ++ rest) = isAbsolute folder := by
  obtain ⟨c, cs, hcs⟩ :=
    List.exists_cons_of_ne_nil fun hnil => h (String.toList_eq_nil_iff.mp hnil)
  rw [isAbsolute, isAbsolute, String.toList_append, hcs]
  rfl

theorem join_cases (folder : String) (h : IsPlain name) :
    folder = "" ∧ join folder name = name ∨
      folder ≠ "" ∧ ∃ rest, join folder name = folder ++ rest ∧
        names (folder ++ rest) = names folder ++ [name] := by
  unfold join
  rw [h.not_isAbsolute, Bool.false_or]
  by_cases hempty : folder = ""
  · exact Or.inl ⟨hempty, if_pos (decide_eq_true hempty)⟩
  rw [if_neg (by simpa using hempty)]
  refine Or.inr ⟨hempty, ?_⟩
  split_ifs with hslash
  · -- the slash at the end of the folder parts it from the name
    obtain ⟨cs, hcs⟩ := List.getLast?_eq_some_iff.mp (of_decide_eq_true hslash)
    have hfolder : folder = String.ofList cs ++ "/" ++ "" :=
      String.toList_inj.mp (by rw [hcs]; simp)
    have hname : folder ++ name = String.ofList cs ++ "/" ++ name := by rw [hfolder]; simp
    refine ⟨name, rfl, ?_⟩
    rw [hname, names_slash, h.names_eq, hfolder, names_slash, show names "" = [] from rfl,
      List.append_nil]
  · refine ⟨"/" ++ name, String.append_assoc .., ?_⟩
    rw [← String.append_assoc, names_slash, h.names_eq]

/-- **To join a plain name** is to add a last name. -/
theorem parts_join (folder : String) (h : IsPlain name) :
    parts (join folder name) = (parts folder).child name := by
  rcases join_cases folder h with ⟨rfl, hjoin⟩ | ⟨hne, rest, hjoin, hnames⟩
  · rw [hjoin, parts, h.not_isAbsolute, h.names_eq]
    rfl
  · rw [hjoin, parts, isAbsolute_append hne, hnames, counting_concat _ _ h.ne_dot]
    rfl

/-- A path names something that is directly in a folder. -/
def LiesIn (path folder name : String) : Prop :=
  (parts path).parent? = some (parts folder) ∧ (parts path).last? = some name

theorem liesIn_iff {path folder : String} :
    LiesIn path folder name ↔ parts path = (parts folder).child name :=
  Parts.eq_child_iff.symm

theorem liesIn_join (folder : String) (h : IsPlain name) : LiesIn (join folder name) folder name :=
  liesIn_iff.mpr (parts_join folder h)

theorem LiesIn.slash_not_mem {path folder : String} (h : LiesIn path folder name) :
    '/' ∉ name.toList := by
  have hmem : name ∈ counting (isAbsolute path) (names path) := List.mem_of_getLast? h.2
  have hname : name ∈ names path := by
    unfold counting at hmem
    split_ifs at hmem
    · exact List.mem_of_mem_filter hmem
    · rcases List.mem_append.mp hmem with hmem | hmem
      · exact List.mem_of_mem_take hmem
      · exact List.mem_of_mem_drop (List.mem_of_mem_filter hmem)
  exact Path.slash_not_mem hname

end MaxPatch.Path
