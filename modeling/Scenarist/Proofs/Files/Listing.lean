/-
  Listing — the files of a tree, whatever the order in which its folders list their entries.

  1. **Proper trees** — in a folder the names differ, and each is one that a path can hold
     (`Entry.Proper`).  An entry of such a folder is found under its name.

  2. **All files** — a proper tree lists each of its files, with the names that lead to it, and lists
     it once (`mem_files`, `nodup_files`).

  3. **Other orders** — a tree is `Relisted` when folders at any depth list the same entries in
     another order.  It lists the same files (`Relisted.files`), and names and paths lead to the same
     entries in it (`Relisted.at?`, `Relisted.find`).
-/
import Mathlib.Data.List.Nodup
import Scenarist.Proofs.Files.Writing

namespace Scenarist.Entry

variable {e f root after : Entry} {here names : List Text} {name path : Text}
  {content : Option Text} {es fs : List (Text × Entry)}

/-! ## Proper trees -/

/-- A name that an entry can have in a folder. -/
def IsName (name : Text) : Prop := name ≠ [] ∧ '/' ∉ name ∧ name ≠ ['.'] ∧ name ≠ ['.', '.']

instance (name : Text) : Decidable (IsName name) :=
  inferInstanceAs (Decidable (_ ∧ _ ∧ _ ∧ _))

/-- Folders at any depth give their entries different names that paths can hold. -/
inductive Proper : Entry → Prop where
  /-- A file. -/
  | file (content : Option Text) : Proper (.file content)
  /-- A folder. -/
  | folder {es : List (Text × Entry)} (differ : (es.map Prod.fst).Nodup)
      (named : ∀ p ∈ es, IsName p.1) (inside : ∀ p ∈ es, Proper p.2) : Proper (.folder es)

/-- Where names differ, what goes with a name is found under it. -/
theorem lookup_eq_some_iff_mem {α : Type} {entries : List (Text × α)} {a : α}
    (h : (entries.map Prod.fst).Nodup) : entries.lookup name = some a ↔ (name, a) ∈ entries := by
  induction entries with
  | nil => simp
  | cons first entries ih =>
    obtain ⟨n, old⟩ := first
    rw [List.map_cons, List.nodup_cons] at h
    by_cases hn : name = n
    · subst hn
      have hfresh : (name, a) ∉ entries := fun hmem =>
        h.1 (List.mem_map.2 ⟨(name, a), hmem, rfl⟩)
      rw [List.lookup_cons_self, List.mem_cons, or_iff_left hfresh]
      simp [eq_comm]
    · rw [List.lookup_cons, beq_false_of_ne hn, ih h.2, List.mem_cons]
      simp [hn]

theorem at?_cons_eq_some_iff (h : (es.map Prod.fst).Nodup) :
    (folder es).at? (name :: names) = some e ↔
      ∃ inner, (name, inner) ∈ es ∧ inner.at? names = some e := by
  simp only [at?_cons, Option.bind_eq_some_iff, lookup_eq_some_iff_mem h]

theorem Proper.differ (h : Proper (.folder es)) : (es.map Prod.fst).Nodup := by
  cases h
  assumption

theorem Proper.named (h : Proper (.folder es)) : ∀ p ∈ es, IsName p.1 := by
  cases h
  assumption

theorem Proper.inside (h : Proper (.folder es)) : ∀ p ∈ es, p.2.Proper := by
  cases h
  assumption

/-- What names lead to in a proper tree is proper. -/
theorem Proper.at? (h : root.Proper) : root.at? names = some e → e.Proper := by
  induction h generalizing names with
  | file content =>
    intro hat
    cases names with
    | nil =>
      obtain rfl := Option.some.inj hat
      exact .file content
    | cons name names => cases hat
  | folder differ named inside ih =>
    intro hat
    cases names with
    | nil =>
      obtain rfl := Option.some.inj hat
      exact .folder differ named inside
    | cons name names =>
      obtain ⟨inner, hmem, hrest⟩ := (at?_cons_eq_some_iff differ).1 hat
      exact ih (name, inner) hmem hrest

/-- What is found at a path of a proper tree is proper. -/
theorem Proper.find (h : root.Proper) (hfind : root.find path = .ok e) : e.Proper := by
  obtain ⟨there, -, hat⟩ := find_eq_ok_iff.1 hfind
  exact h.at? hat

/-! ## All files -/

theorem filesIn_eq_flatMap (here : List Text) (es : List (Text × Entry)) :
    filesIn here es = es.flatMap fun p => p.2.files (here ++ [p.1]) := by
  induction es with
  | nil => rfl
  | cons first es ih =>
    rw [filesIn, ih]
    rfl

theorem files_folder (here : List Text) (es : List (Text × Entry)) :
    (folder es).files here = es.flatMap fun p => p.2.files (here ++ [p.1]) := by
  rw [files, filesIn_eq_flatMap]

/-- A proper tree lists its files, with the names that lead to them, and nothing else. -/
theorem mem_files (h : e.Proper) (here names : List Text) (content : Option Text) :
    (names, content) ∈ e.files here ↔
      ∃ rest, names = here ++ rest ∧ e.at? rest = some (.file content) := by
  induction h generalizing here with
  | file old =>
    rw [files, List.mem_singleton]
    constructor
    · intro h
      cases h
      exact ⟨[], (List.append_nil _).symm, rfl⟩
    · rintro ⟨rest, rfl, hat⟩
      -- behind a file nothing is found
      cases rest with
      | nil =>
        cases hat
        rw [List.append_nil]
      | cons name rest => cases hat
  | @folder es differ named inside ih =>
    rw [files_folder, List.mem_flatMap]
    constructor
    · rintro ⟨⟨name, e⟩, hmem, hfile⟩
      obtain ⟨rest, rfl, hat⟩ := (ih (name, e) hmem _).1 hfile
      exact ⟨name :: rest, List.append_assoc .., (at?_cons_eq_some_iff differ).2 ⟨e, hmem, hat⟩⟩
    · rintro ⟨rest, rfl, hat⟩
      cases rest with
      | nil => cases hat
      | cons name rest =>
        obtain ⟨e, hmem, hrest⟩ := (at?_cons_eq_some_iff differ).1 hat
        exact ⟨(name, e), hmem,
          (ih (name, e) hmem _).2 ⟨rest, (List.append_assoc here [name] rest).symm, hrest⟩⟩

theorem mem_map_files (h : e.Proper) : names ∈ (e.files here).map Prod.fst ↔
    ∃ rest, names = here ++ rest ∧ ∃ content, e.at? rest = some (.file content) := by
  constructor
  · intro hmem
    obtain ⟨⟨_, content⟩, hfile, rfl⟩ := List.mem_map.1 hmem
    obtain ⟨rest, hrest, hat⟩ := (mem_files h here _ content).1 hfile
    exact ⟨rest, hrest, content, hat⟩
  · rintro ⟨rest, rfl, content, hat⟩
    exact List.mem_map.2 ⟨_, (mem_files h here _ content).2 ⟨rest, rfl, hat⟩, rfl⟩

/-- A proper tree lists no file twice. -/
theorem nodup_files (h : e.Proper) (here : List Text) : ((e.files here).map Prod.fst).Nodup := by
  induction h generalizing here with
  | file content =>
    rw [files]
    exact List.nodup_singleton _
  | @folder es differ named inside ih =>
    rw [files_folder, List.map_flatMap, List.nodup_flatMap]
    refine ⟨fun p hp => ih p hp _, ?_⟩
    -- the files under two entries have different names right behind `here`
    refine (List.pairwise_map.1 differ).imp_of_mem fun {p q} hp hq hne =>
      List.disjoint_left.2 fun names hfirst hsecond => ?_
    obtain ⟨rest, rfl, -⟩ := (mem_map_files (inside p hp)).1 hfirst
    obtain ⟨rest', hrest, -⟩ := (mem_map_files (inside q hq)).1 hsecond
    rw [List.append_assoc, List.append_assoc, List.append_cancel_left_eq] at hrest
    exact hne (List.cons.inj hrest).1

/-! ## Other orders -/

/-- A tree in which folders, at any depth, list the same entries in another order. -/
inductive Relisted : Entry → Entry → Prop where
  /-- The same tree. -/
  | refl (e : Entry) : Relisted e e
  /-- Another order of the entries of a folder. -/
  | permute {es fs : List (Text × Entry)} (h : es.Perm fs) : Relisted (.folder es) (.folder fs)
  /-- Another order somewhere inside an entry of a folder. -/
  | inside (front back : List (Text × Entry)) (name : Text) {e f : Entry} (h : Relisted e f) :
      Relisted (.folder (front ++ (name, e) :: back)) (.folder (front ++ (name, f) :: back))
  /-- One after the other. -/
  | trans {e f g : Entry} (first : Relisted e f) (second : Relisted f g) : Relisted e g

theorem Relisted.symm (h : Relisted e f) : Relisted f e := by
  induction h with
  | refl e => exact .refl e
  | permute h => exact .permute h.symm
  | inside front back name _ ih => exact .inside front back name ih
  | trans _ _ ih₁ ih₂ => exact ih₂.trans ih₁

/-- The same files are listed, with the same names and contents. -/
theorem Relisted.files (h : Relisted e f) (here : List Text) :
    (e.files here).Perm (f.files here) := by
  induction h generalizing here with
  | refl e => exact .refl _
  | permute h =>
    rw [files_folder, files_folder]
    exact h.flatMap_right _
  | inside front back name _ ih =>
    rw [files_folder, files_folder, List.flatMap_append, List.flatMap_append, List.flatMap_cons,
      List.flatMap_cons]
    exact ((ih _).append_right _).append_left _
  | trans _ _ ih₁ ih₂ => exact (ih₁ here).trans (ih₂ here)

/-- A file stays that file, and a folder a folder. -/
theorem Relisted.kind (h : Relisted e f) : e.kind = f.kind := by
  induction h with
  | refl e => rfl
  | permute h => rfl
  | inside front back name _ ih => rfl
  | trans _ _ ih₁ ih₂ => rw [ih₁, ih₂]

theorem Relisted.proper (h : Relisted e f) : e.Proper → f.Proper := by
  induction h with
  | refl e => exact id
  | permute h =>
    intro hproper
    exact .folder ((h.map Prod.fst).nodup_iff.1 hproper.differ)
      (fun p hp => hproper.named p (h.mem_iff.2 hp)) fun p hp => hproper.inside p (h.mem_iff.2 hp)
  | inside front back name _ ih =>
    intro hproper
    have hnamed := hproper.named
    have hinside := hproper.inside
    rw [List.forall_mem_append, List.forall_mem_cons] at hnamed hinside
    refine .folder (by simpa using hproper.differ) ?_ ?_
    · rw [List.forall_mem_append, List.forall_mem_cons]
      exact hnamed
    · rw [List.forall_mem_append, List.forall_mem_cons]
      exact ⟨hinside.1, ih hinside.2.1, hinside.2.2⟩
  | trans _ _ ih₁ ih₂ => exact ih₂ ∘ ih₁

/-- Names lead to the same entry, at most itself in another order. -/
theorem Relisted.at? (h : Relisted root after) : root.Proper → ∀ {names : List Text} {e : Entry},
    root.at? names = some e → ∃ f, after.at? names = some f ∧ Relisted e f := by
  induction h with
  | refl root =>
    intro _ names e hat
    exact ⟨e, hat, .refl e⟩
  | permute h =>
    intro hproper names e hat
    cases names with
    | nil =>
      obtain rfl := Option.some.inj hat
      exact ⟨_, rfl, .permute h⟩
    | cons name names =>
      obtain ⟨inner, hmem, hrest⟩ := (at?_cons_eq_some_iff hproper.differ).1 hat
      have hdiffer := ((Relisted.permute h).proper hproper).differ
      exact ⟨e, (at?_cons_eq_some_iff hdiffer).2 ⟨inner, h.mem_iff.1 hmem, hrest⟩, .refl e⟩
  | @inside front back changed old new h ih =>
    intro hproper names e hat
    have hwhole := Relisted.inside front back changed h
    cases names with
    | nil =>
      obtain rfl := Option.some.inj hat
      exact ⟨_, rfl, hwhole⟩
    | cons name names =>
      obtain ⟨inner, hmem, hrest⟩ := (at?_cons_eq_some_iff hproper.differ).1 hat
      rw [List.mem_append, List.mem_cons] at hmem
      simp only [at?_cons_eq_some_iff (hwhole.proper hproper).differ, List.mem_append,
        List.mem_cons]
      -- the entry itself is the one that changed, or it stands beside it
      rcases hmem with hfront | hentry | hback
      · exact ⟨e, ⟨inner, .inl hfront, hrest⟩, .refl e⟩
      · cases hentry
        obtain ⟨f, hf, hef⟩ := ih (hproper.inside (changed, old) (by simp)) hrest
        exact ⟨f, ⟨new, .inr (.inl rfl), hf⟩, hef⟩
      · exact ⟨e, ⟨inner, .inr (.inr hback), hrest⟩, .refl e⟩
  | trans first _ ih₁ ih₂ =>
    intro hproper names e hat
    obtain ⟨f, hf, hef⟩ := ih₁ hproper hat
    obtain ⟨g, hg, hfg⟩ := ih₂ (first.proper hproper) hf
    exact ⟨g, hg, hef.trans hfg⟩

/-- A file is that file in any order. -/
theorem Relisted.eq_file (h : Relisted (.file content) f) : f = .file content := by
  have hkind := h.kind
  cases f with
  | file c =>
    cases hkind
    rfl
  | folder fs => cases hkind

/-- Every folder is still a folder, with the names it had. -/
theorem Relisted.keeps (h : Relisted root after) (hroot : root.Proper) : Keeps root after := by
  intro names es hat
  obtain ⟨f, hf, hrel⟩ := h.at? hroot hat
  cases f with
  | file content => cases hrel.kind
  | folder fs =>
    refine ⟨fs, hf, fun name hname => ?_⟩
    obtain ⟨e, he⟩ := Option.isSome_iff_exists.1 hname
    have hbehind : root.at? (names ++ [name]) = some e := by
      rw [at?_append, hat, Option.bind_some, at?_cons, he]
      rfl
    obtain ⟨g, hg, -⟩ := h.at? hroot hbehind
    rw [at?_append, hf, Option.bind_some, at?_cons] at hg
    obtain ⟨g', hlookup, -⟩ := Option.bind_eq_some_iff.1 hg
    rw [hlookup]
    rfl

/-- A path leads to the same entry, at most itself in another order. -/
theorem Relisted.find (h : Relisted root after) (hroot : root.Proper)
    (hfind : root.find path = .ok e) : ∃ f, after.find path = .ok f ∧ Relisted e f := by
  obtain ⟨there, ⟨names, hnames, hwalk⟩, hat⟩ := find_eq_ok_iff.1 hfind
  obtain ⟨f, hf, hrel⟩ := h.at? hroot hat
  exact ⟨f, find_eq_ok_iff.2 ⟨there, ⟨names, hnames, walk_of_keeps (h.keeps hroot) names [] hwalk⟩, hf⟩,
    hrel⟩

end Scenarist.Entry
