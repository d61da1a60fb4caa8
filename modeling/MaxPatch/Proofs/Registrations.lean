import Mathlib.Data.String.Basic
import MaxPatch.Catalog.Builtin
import MaxPatch.Proofs.Writes

/-! # Registrations: the catalog as a map

A catalog answers six questions from one list of entries. As long as the entries are in order
(`Catalog.Ordered`) all answers agree: a type has one entry, which is found under its name, and each
name belongs to the one category of its entry (`Ordered.entry?_eq_some_iff`, `Ordered.namesIn_eq`).

Filing a type puts its entry in place without touching any other (`entry?_file`), and it keeps the
order (`Ordered.file`). So a catalog is in order whatever was filed in it, the built-in one
included, and after any registrations it has of each type what was registered last, or else what it
had before (`registrations_make_a_map`). -/

namespace MaxPatch.Catalog

/-! ### Placing an entry -/

theorem mem_place {e x : CatalogEntry} {xs : List CatalogEntry} (h : x ∈ place e xs) :
    x = e ∨ x ∈ xs := by
  induction xs with
  | nil => exact Or.inl (List.mem_singleton.mp h)
  | cons y ys ih =>
    unfold place at h
    split_ifs at h with hlt heq
    · rcases List.mem_cons.mp h with rfl | h
      · exact Or.inl rfl
      · exact Or.inr h
    · rcases List.mem_cons.mp h with rfl | h
      · exact Or.inl rfl
      · exact Or.inr (List.mem_cons_of_mem y h)
    · rcases List.mem_cons.mp h with rfl | h
      · exact Or.inr List.mem_cons_self
      · rcases ih h with rfl | h
        · exact Or.inl rfl
        · exact Or.inr (List.mem_cons_of_mem y h)

theorem find?_place (e : CatalogEntry) (xs : List CatalogEntry) (name : String) :
    (place e xs).find? (·.name = name) =
      if e.name = name then some e else xs.find? (·.name = name) := by
  induction xs with
  | nil => by_cases h : e.name = name <;> simp [place, h]
  | cons y ys ih =>
    unfold place
    by_cases hname : e.name = name
    · rw [if_pos hname] at ih ⊢
      split_ifs with hlt heq
      · simp [hname]
      · simp [hname]
      · have hy : y.name ≠ name := hname ▸ Ne.symm heq
        simpa [hy] using ih
    · rw [if_neg hname] at ih ⊢
      split_ifs with hlt heq
      · simp [hname]
      · have hy : y.name ≠ name := heq ▸ hname
        simp [hname, hy]
      · by_cases hy : y.name = name
        · simp [hy]
        · simpa [hy] using ih

theorem pairwise_place (e : CatalogEntry) {xs : List CatalogEntry}
    (h : xs.Pairwise fun x y => x.name < y.name) :
    (place e xs).Pairwise fun x y => x.name < y.name := by
  induction xs with
  | nil => exact List.pairwise_singleton _ e
  | cons y ys ih =>
    obtain ⟨hy, hys⟩ := List.pairwise_cons.mp h
    unfold place
    split_ifs with hlt heq
    · refine List.pairwise_cons.mpr ⟨fun x hx => ?_, h⟩
      rcases List.mem_cons.mp hx with rfl | hx
      · exact hlt
      · exact hlt.trans (hy x hx)
    · exact List.pairwise_cons.mpr ⟨fun x hx => heq ▸ hy x hx, hys⟩
    · refine List.pairwise_cons.mpr ⟨fun x hx => ?_, ih hys⟩
      rcases mem_place hx with rfl | hx
      · exact lt_of_le_of_ne (not_lt.mp hlt) (Ne.symm heq)
      · exact hy x hx

/-! ### Catalogs in order -/

/-- **A catalog in order**: its names increase strictly. -/
def Ordered (c : Catalog) : Prop := c.entries.Pairwise fun x y => x.name < y.name

variable {c : Catalog}

theorem ordered_empty : empty.Ordered := List.Pairwise.nil

theorem Ordered.file (h : c.Ordered) (category : Category) (name : String) (contract : Contract) :
    (c.file category name contract).Ordered := pairwise_place _ h

/-! ### Looking a type up -/

theorem entry?_file (c : Catalog) (category : Category) (name : String) (contract : Contract)
    (t : String) : entry? (c.file category name contract) t =
      if name = t then some { name, contract, category } else c.entry? t :=
  find?_place { name, contract, category } c.entries t

theorem contains_iff (c : Catalog) (t : String) : c.contains t ↔ t ∈ c.names := by
  unfold contains entry? names
  rw [List.find?_isSome, List.mem_map]
  simp

/-- **The one entry of a type.** -/
theorem Ordered.entry?_eq_some_iff (h : c.Ordered) {t : String} {e : CatalogEntry} :
    c.entry? t = some e ↔ e ∈ c.entries ∧ e.name = t := by
  unfold entry?
  constructor
  · intro he
    exact ⟨List.mem_of_find?_eq_some he, by simpa using List.find?_some he⟩
  · rintro ⟨he, rfl⟩
    unfold Ordered at h
    generalize c.entries = xs at h he
    induction xs with
    | nil => cases he
    | cons x xs ih =>
      obtain ⟨hx, hxs⟩ := List.pairwise_cons.mp h
      rcases List.mem_cons.mp he with rfl | he
      · simp
      · have hne : x.name ≠ e.name := (hx e he).ne
        simpa [hne] using ih hxs he

/-- **The names of a category** are those that are filed under it. -/
theorem Ordered.namesIn_eq (h : c.Ordered) (category : Category) :
    c.namesIn category = c.names.filter fun t => c.category? t = some category := by
  unfold namesIn names
  rw [List.filter_map]
  refine congrArg (List.map CatalogEntry.name) (List.filter_congr fun e he => ?_)
  have hentry : c.entry? e.name = some e := h.entry?_eq_some_iff.mpr ⟨he, rfl⟩
  simp [category?, hentry]

theorem resolve_value (c : Catalog) (t : String) :
    (c.resolve t).value = (c.lookup? t).getD .fallback := by
  unfold resolve
  cases c.lookup? t with
  | none => rfl
  | some contract => rfl

/-! ### Filing types one after the other -/

/-- The catalog after entries were filed. -/
def fileAll (c : Catalog) (entries : List CatalogEntry) : Catalog :=
  entries.foldl (fun c e => c.file e.category e.name e.contract) c

theorem Ordered.fileAll (h : c.Ordered) (entries : List CatalogEntry) :
    (c.fileAll entries).Ordered := by
  induction entries generalizing c with
  | nil => exact h
  | cons e entries ih => exact ih (h.file e.category e.name e.contract)

/-- **What filing leaves**: the entry that was filed last, or else the one that was there. -/
theorem entry?_fileAll (c : Catalog) (entries : List CatalogEntry) (t : String) :
    entry? (c.fileAll entries) t = (entries.reverse.find? (·.name = t)).or (c.entry? t) := by
  induction entries generalizing c with
  | nil => rfl
  | cons e entries ih =>
    have hrest : entry? (c.fileAll (e :: entries)) t = _ := ih (c.file e.category e.name e.contract)
    rw [hrest, entry?_file, List.reverse_cons, List.find?_append, Option.or_assoc]
    by_cases he : e.name = t
    · subst he
      simp
    · simp [he]

/-- The entries of the built-in catalog, as they are filed. -/
def builtinEntries : List CatalogEntry :=
  builtinTypes.flatMap fun f => f.2.map fun t => { name := t.1, contract := t.2, category := f.1 }

theorem builtin_eq : builtin = empty.fileAll builtinEntries := by
  unfold builtin fileAll builtinEntries
  rw [List.foldl_flatMap]
  simp only [List.foldl_map]

theorem ordered_builtin : builtin.Ordered := by
  rw [builtin_eq]
  exact ordered_empty.fileAll builtinEntries

/-! ### Registering types -/

/-- The catalog after types were registered. -/
def registerAll (c : Catalog) (registered : List (String × Contract)) : Catalog :=
  registered.foldl (fun c r => c.register r.1 r.2) c

theorem Ordered.registerAll (h : c.Ordered) (registered : List (String × Contract)) :
    (c.registerAll registered).Ordered := by
  have hfile : c.registerAll registered = c.fileAll (registered.map fun r =>
      { name := r.1, contract := r.2, category := .custom }) := by
    unfold Catalog.registerAll Catalog.fileAll
    rw [List.foldl_map]
    rfl
  rw [hfile]
  exact h.fileAll _

theorem lookup?_registerAll (c : Catalog) (registered : List (String × Contract)) (t : String) :
    (c.registerAll registered).lookup? t = (latest? registered t).or (c.lookup? t) := by
  have h := look_foldl (fun (c : Catalog) r => c.register r.1 r.2) lookup? id (fun c r t => by
    unfold lookup? register
    rw [entry?_file]
    split_ifs <;> rfl) registered c t
  rwa [Option.map_id] at h

theorem category?_registerAll (c : Catalog) (registered : List (String × Contract)) (t : String) :
    (c.registerAll registered).category? t =
      if t ∈ registered.map (·.1) then some .custom else c.category? t := by
  have h := look_foldl (fun (c : Catalog) r => c.register r.1 r.2) category? (fun _ => .custom)
    (fun c r t => by
      unfold category? register
      rw [entry?_file]
      split_ifs <;> rfl) registered c t
  refine h.trans ?_
  by_cases ht : t ∈ registered.map (·.1)
  · rw [if_pos ht]
    cases hlatest : latest? registered t with
    | none => exact absurd ht (latest?_eq_none_iff.mp hlatest)
    | some contract => rfl
  · rw [if_neg ht, latest?_eq_none_iff.mpr ht]
    rfl

/-- **Registrations make a map.** After any registrations in the empty or the built-in catalog, a
type has the contract that was registered last for it, or else the one it had, and is in the
category `custom`, or else where it was. It is known if and only if it has a contract, and if and
only if it has a category; one that is not known gets the general contract. The names increase
strictly and are those of the known types, as many as the catalog counts; and each name is in one
category, whose names are those of its types in the same order. -/
theorem registrations_make_a_map (base : Catalog) (hbase : base = .empty ∨ base = .builtin)
    (registered : List (String × Contract)) :
    let c := base.registerAll registered
    (∀ t, c.lookup? t = (latest? registered t).or (base.lookup? t)) ∧
    (∀ t, c.category? t =
      if t ∈ registered.map (·.1) then some .custom else base.category? t) ∧
    (∀ t, c.contains t = (c.lookup? t).isSome ∧ c.contains t = (c.category? t).isSome) ∧
    (∀ t, (c.resolve t).value =
      (c.lookup? t).getD { inlets := 1, outlets := [.message], renderClass := "newobj" }) ∧
    c.names.Pairwise (· < ·) ∧
    (∀ t, t ∈ c.names ↔ c.contains t) ∧
    c.size = c.names.length ∧
    (∀ category, c.namesIn category = c.names.filter fun t => c.category? t = some category) ∧
    ∀ t ∈ c.names, ∃! category, t ∈ c.namesIn category := by
  intro c
  have hordered : c.Ordered := by
    rcases hbase with rfl | rfl
    · exact ordered_empty.registerAll registered
    · exact ordered_builtin.registerAll registered
  refine ⟨base.lookup?_registerAll registered, base.category?_registerAll registered, fun t => ?_,
    c.resolve_value, List.pairwise_map.mpr hordered, fun t => (c.contains_iff t).symm, ?_,
    hordered.namesIn_eq, fun t ht => ?_⟩
  · unfold contains lookup? category?
    rw [Option.isSome_map, Option.isSome_map]
    exact ⟨rfl, rfl⟩
  · exact (List.length_map _).symm
  · have hknown : (c.category? t).isSome := by
      have hcontains := (c.contains_iff t).mpr ht
      unfold contains at hcontains
      unfold category?
      rwa [Option.isSome_map]
    obtain ⟨category, hcategory⟩ := Option.isSome_iff_exists.mp hknown
    have hmem : ∀ other, t ∈ c.namesIn other ↔ category = other := fun other => by
      rw [hordered.namesIn_eq, List.mem_filter, hcategory]
      simp [ht]
    exact ⟨category, (hmem category).mpr rfl, fun other hother => ((hmem other).mp hother).symm⟩

/-- A built-in type that is registered anew leaves its category. -/
theorem pipe_leaves_timing :
    let wide : Contract := { inlets := 3, outlets := [.message, .message, .message] }
    let c := builtin.registerAll [("pipe", { inlets := 0, outlets := [] }), ("pipe", wide)]
    (builtin = .empty ∨ builtin = .builtin) ∧ builtin.category? "pipe" = some .timing ∧
      c.lookup? "pipe" = some wide ∧ "pipe" ∈ c.namesIn .custom ∧ "pipe" ∉ c.namesIn .timing := by
  intro wide c
  obtain ⟨hlookup, hcategory, -, -, -, hmem, -, hnames, -⟩ := registrations_make_a_map builtin
    (Or.inr rfl) [("pipe", { inlets := 0, outlets := [] }), ("pipe", wide)]
  have hpipe : c.category? "pipe" = some .custom := hcategory "pipe"
  have hknown : "pipe" ∈ c.names := (c.contains_iff "pipe").mp (by
    have h := congrArg Option.isSome hpipe
    unfold category? at h
    rwa [Option.isSome_map] at h)
  have hbefore : builtin.category? "pipe" = some .timing := by
    unfold category?
    rw [builtin_eq, entry?_fileAll]
    rfl
  refine ⟨Or.inr rfl, hbefore, hlookup "pipe", ?_, ?_⟩
  · rw [hnames .custom, List.mem_filter]
    exact ⟨hknown, by simpa using hpipe⟩
  · rw [hnames .timing, List.mem_filter]
    rintro ⟨-, htiming⟩
    rw [hpipe] at htiming
    cases of_decide_eq_true htiming

end MaxPatch.Catalog
