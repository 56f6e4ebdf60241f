/-
  Writing — what is written to a path is read back from it, and nothing else changes.

  1. **Setting an entry** — `put` sets one entry at the end of some names and nothing beside them.
     Where the folder is there already, the entry is what those names lead to afterwards
     (`at?_put`), and every folder stays a folder with the names it had (`keeps_put`).

  2. **Walking again** — a walk only looks whether there are folders and names, so it goes the same
     way in a tree that `Keeps` another one (`walk_of_keeps`).

  3. **Reading back** — the walk that has found the folder of a path finds it again in the new tree,
     and one more name leads to the file (`read_write`).

  4. **All else** — what stands at any other names, a file with its content or a folder, stands there
     as before (`kindAt_write`).  Behind the names of a file nothing is found, so the old file and the
     new one hide nothing from each other.
-/
import Mathlib.Data.List.DropRight
import Scenarist.Proofs.Files.Paths

namespace Scenarist.Entry

variable {root after : Entry} {here there names : List Text} {name : Text}
  {es : List (Text × Entry)} {path text : Text}

/-! ## Setting an entry -/

theorem lookup_cons_of_ne {name other : Text} (h : other ≠ name) (e : Entry)
    (es : List (Text × Entry)) : ((name, e) :: es).lookup other = es.lookup other := by
  rw [List.lookup_cons, beq_false_of_ne h]

theorem lookup_setEntry (name : Text) (e : Entry) (es : List (Text × Entry)) (other : Text) :
    (setEntry name e es).lookup other = if other = name then some e else es.lookup other := by
  induction es with
  | nil =>
    rw [setEntry]
    by_cases h : other = name
    · rw [if_pos h, h, List.lookup_cons_self]
    · rw [if_neg h, lookup_cons_of_ne h]
  | cons first es ih =>
    obtain ⟨n, old⟩ := first
    rw [setEntry]
    by_cases hn : n = name
    · subst hn
      rw [if_pos rfl]
      by_cases h : other = n
      · rw [if_pos h, h, List.lookup_cons_self]
      · rw [if_neg h, lookup_cons_of_ne h, lookup_cons_of_ne h]
    · rw [if_neg hn]
      by_cases h : other = n
      · subst h
        rw [if_neg hn, List.lookup_cons_self, List.lookup_cons_self]
      · rw [lookup_cons_of_ne h, lookup_cons_of_ne h, ih]

theorem put_cons (new : Entry) (name : Text) (names : List Text) (es : List (Text × Entry)) :
    put new (name :: names) (folder es)
      = folder (setEntry name (put new names ((es.lookup name).getD (folder []))) es) := by
  rw [put]

/-- The new entry is found where it was put, if the folder was there. -/
theorem at?_put (new : Entry) (name : Text) (here : List Text) : ∀ (root : Entry)
    (es : List (Text × Entry)), root.at? here = some (folder es) →
    (put new (here ++ [name]) root).at? (here ++ [name]) = some new := by
  induction here with
  | nil =>
    intro root es h
    obtain rfl : root = folder es := Option.some.inj h
    rw [List.nil_append, put_cons, at?_cons, lookup_setEntry, if_pos rfl, put]
    rfl
  | cons n here ih =>
    intro root es h
    cases root with
    | file content => cases h
    | folder es' =>
      rw [at?_cons] at h
      obtain ⟨e, he, hrest⟩ := Option.bind_eq_some_iff.1 h
      rw [List.cons_append, put_cons, at?_cons, lookup_setEntry, if_pos rfl, he, Option.bind_some,
        Option.getD_some]
      exact ih e es hrest

/-! ## Walking again -/

/-- Every folder is still a folder and still has the names it had. -/
def Keeps (before after : Entry) : Prop :=
  ∀ names es, before.at? names = some (folder es) →
    ∃ es', after.at? names = some (folder es') ∧
      ∀ name, (es.lookup name).isSome → (es'.lookup name).isSome

theorem keeps_file (content : Option Text) (after : Entry) : Keeps (file content) after := by
  intro names es h
  cases names <;> cases h

/-- Setting an entry keeps what it keeps of the entry that stood there. -/
theorem keeps_setEntry {new : Entry} (h : ∀ e, es.lookup name = some e → Keeps e new) :
    Keeps (folder es) (folder (setEntry name new es)) := by
  intro names fs hat
  cases names with
  | nil =>
    obtain rfl : es = fs := by simpa [at?] using hat
    refine ⟨_, rfl, fun other hother => ?_⟩
    rw [lookup_setEntry]
    split
    · rfl
    · exact hother
  | cons other names =>
    rw [at?_cons] at hat ⊢
    rw [lookup_setEntry]
    obtain ⟨e, he, hrest⟩ := Option.bind_eq_some_iff.1 hat
    by_cases hother : other = name
    · subst hother
      rw [if_pos rfl, Option.bind_some]
      exact h e he names fs hrest
    · rw [if_neg hother, he]
      exact ⟨fs, hrest, fun _ h => h⟩

/-- A file that is put where no folder stands takes no folder and no name away. -/
theorem keeps_put (content : Option Text) (name : Text) (here : List Text) : ∀ (root : Entry)
    (es : List (Text × Entry)), root.at? here = some (folder es) →
    (∀ inner, es.lookup name ≠ some (folder inner)) →
    Keeps root (put (file content) (here ++ [name]) root) := by
  induction here with
  | nil =>
    intro root es h hfile
    obtain rfl : root = folder es := Option.some.inj h
    rw [List.nil_append, put_cons, put]
    -- at most a file stood at the name, and no folder is found behind it
    refine keeps_setEntry fun e he => ?_
    cases e with
    | folder inner => exact absurd he (hfile inner)
    | file old => exact keeps_file old (file content)
  | cons n here ih =>
    intro root es h hfile
    cases root with
    | file content => cases h
    | folder es' =>
      rw [at?_cons] at h
      obtain ⟨e, he, hhere⟩ := Option.bind_eq_some_iff.1 h
      rw [List.cons_append, put_cons, he, Option.getD_some]
      refine keeps_setEntry fun e' he' => ?_
      obtain rfl : e = e' := Option.some.inj (he.symm.trans he')
      exact ih e es hhere hfile

theorem step?_mono {es es' : List (Text × Entry)} {next : List Text}
    (hnames : ∀ name, (es.lookup name).isSome → (es'.lookup name).isSome)
    (h : step? es here name = some next) : step? es' here name = some next := by
  unfold step? at h ⊢
  split
  · next hblank =>
    rw [if_pos hblank] at h
    exact h
  · next hblank =>
    rw [if_neg hblank] at h
    split
    · next hback =>
      rw [if_pos hback] at h
      exact h
    · next hback =>
      rw [if_neg hback] at h
      split at h
      · next hsome =>
        rw [if_pos (hnames name hsome)]
        exact h
      · cases h

/-- A walk goes the same way in a tree that keeps folders and names. -/
theorem walk_of_keeps (hkeeps : Keeps root after) (names : List Text) : ∀ here : List Text,
    root.walk here names = .ok there → after.walk here names = .ok there := by
  induction names with
  | nil =>
    intro here h
    exact h
  | cons name names ih =>
    intro here h
    obtain ⟨es, next, hat, hstep, hrest⟩ := walk_cons_eq_ok_iff.1 h
    obtain ⟨es', hafter, hnames⟩ := hkeeps here es hat
    exact walk_cons_eq_ok_iff.2 ⟨es', next, hafter, step?_mono hnames hstep, ih next hrest⟩

/-! ## Reading back -/

/-- What a path that can be written to says: the names before its last one lead to a folder, the last
one is the name of an entry, and in that folder it is free or the name of a file. -/
theorem target_eq_ok (h : root.target path = .ok there) :
    ∃ front name here es, names? path = some (front ++ [name]) ∧ there = here ++ [name] ∧
      root.walk [] front = .ok here ∧ root.at? here = some (folder es) ∧
      (∀ fs, (fs.lookup name).isSome → step? fs here name = some (here ++ [name])) ∧
      ∀ inner, es.lookup name ≠ some (folder inner) := by
  unfold target at h
  cases hnames : names? path with
  | none => simp [hnames] at h
  | some names =>
    obtain ⟨front, name, rfl⟩ := (List.eq_nil_or_concat names).resolve_left (names?_ne_nil hnames)
    have hdrop : ∀ names : List Text,
        (names.reverse.dropWhile List.isEmpty).reverse = names.rdropWhile List.isEmpty :=
      fun _ => rfl
    simp only [hnames, List.concat_eq_append, hdrop] at h
    -- an empty name at the end would be dropped, and then the path is that of a folder
    cases hempty : name.isEmpty with
    | true =>
      have hshort : (front.rdropWhile List.isEmpty).length < (front ++ [name]).length := by
        have hle := (List.rdropWhile_prefix List.isEmpty front).length_le
        rw [List.length_append, List.length_singleton]
        omega
      rw [List.rdropWhile_concat_pos _ _ _ hempty] at h
      obtain ⟨here, -, h⟩ := exists_of_bind_eq_ok h
      rw [decide_eq_true hshort, Bool.true_or, Bool.true_or] at h
      split at h
      · cases h
      · cases h
      · rw [if_pos rfl] at h
        cases h
    | false =>
      have hkept : (front ++ [name]).rdropWhile List.isEmpty = front ++ [name] :=
        List.rdropWhile_concat_neg _ _ _ (by rw [hempty]; exact Bool.false_ne_true)
      rw [hkept, List.dropLast_concat, List.getLast?_concat, Option.getD_some] at h
      obtain ⟨here, hwalk, h⟩ := exists_of_bind_eq_ok h
      split at h
      · cases h
      · cases h
      · next es hat =>
        split at h
        · cases h
        · next hproper =>
          have hdots : name ≠ ['.'] ∧ name ≠ ['.', '.'] := by simpa using hproper
          refine ⟨front, name, here, es, by rw [List.concat_eq_append], ?_, hwalk, hat,
            fun fs hsome => ?_, fun inner hin => ?_⟩
          · split at h
            · cases h
            · exact (Except.ok.inj h).symm
          · rw [step?, hempty, if_neg (by simpa using hdots.1), if_neg hdots.2, if_pos hsome]
          · rw [hin] at h
            cases h

/-- **What is written is read back**, whatever the path goes through. -/
theorem read_write (h : root.write path text = .ok after) :
    Lookup.read after.find path = .ok text := by
  obtain ⟨there, htarget, hafter⟩ := exists_of_bind_eq_ok h
  obtain ⟨front, name, here, es, hnames, rfl, hwalk, hat, hproper, hfile⟩ := target_eq_ok htarget
  obtain rfl : put (.file (some text)) (here ++ [name]) root = after := Except.ok.inj hafter
  have hkeeps := keeps_put (some text) name here root es hat hfile
  have hnew := at?_put (.file (some text)) name here root es hat
  obtain ⟨es', hat', -⟩ := hkeeps here es hat
  have hsome : (es'.lookup name).isSome := by
    rw [at?_append, hat', Option.bind_some, at?_cons] at hnew
    obtain ⟨e, he, -⟩ := Option.bind_eq_some_iff.1 hnew
    rw [he]
    rfl
  -- the walk to the folder is the old one, and one more name leads to the file
  have hfind : (put (.file (some text)) (here ++ [name]) root).find path
      = .ok (.file (some text)) :=
    find_eq_ok_iff.2 ⟨here ++ [name], ⟨front ++ [name], hnames,
      walk_concat (walk_of_keeps hkeeps front [] hwalk) hat' (hproper es' hsome)⟩, hnew⟩
  rw [Lookup.read, hfind]
  rfl

/-! ## All else -/

/-- What an entry is, whatever is in it. -/
inductive Kind where
  /-- A file with its content. -/
  | file (content : Option Text)
  /-- A folder. -/
  | folder
  deriving DecidableEq, Repr

/-- What an entry is. -/
def kind : Entry → Kind
  | .file content => .file content
  | .folder _ => .folder

/-- What stands where names lead. -/
def kindAt (root : Entry) (names : List Text) : Option Kind := (root.at? names).map kind

theorem kindAt_cons (es : List (Text × Entry)) (name : Text) (names : List Text) :
    (folder es).kindAt (name :: names) = (es.lookup name).bind fun e => e.kindAt names := by
  rw [kindAt, at?_cons, Option.map_bind]
  rfl

/-- Behind a file nothing is found. -/
theorem kindAt_file (content : Option Text) (h : names ≠ []) : (file content).kindAt names = none := by
  cases names with
  | nil => exact absurd rfl h
  | cons name names => rfl

/-- A file that is put where no folder stands changes nothing at other names. -/
theorem kindAt_put (content : Option Text) (name : Text) (here : List Text) : ∀ (root : Entry)
    (es : List (Text × Entry)) (names : List Text), root.at? here = some (folder es) →
    (∀ inner, es.lookup name ≠ some (folder inner)) → names ≠ here ++ [name] →
    (put (file content) (here ++ [name]) root).kindAt names = root.kindAt names := by
  induction here with
  | nil =>
    intro root es names h hfile hother
    obtain rfl : root = folder es := Option.some.inj h
    rw [List.nil_append, put_cons, put]
    cases names with
    | nil => rfl
    | cons first names =>
      rw [kindAt_cons, kindAt_cons, lookup_setEntry]
      split
      · next hfirst =>
        subst hfirst
        have hbehind : names ≠ [] := by
          rintro rfl
          exact hother rfl
        rw [Option.bind_some, kindAt_file content hbehind]
        cases hold : es.lookup first with
        | none => rfl
        | some e =>
          cases e with
          | folder inner => exact absurd hold (hfile inner)
          | file old => exact (kindAt_file old hbehind).symm
      · rfl
  | cons n here ih =>
    intro root es names h hfile hother
    cases root with
    | file old => cases h
    | folder es' =>
      rw [at?_cons] at h
      obtain ⟨e, he, hhere⟩ := Option.bind_eq_some_iff.1 h
      rw [List.cons_append, put_cons, he, Option.getD_some]
      cases names with
      | nil => rfl
      | cons first names =>
        rw [kindAt_cons, kindAt_cons, lookup_setEntry]
        split
        · next hfirst =>
          subst hfirst
          rw [he]
          refine ih e es names hhere hfile ?_
          rintro rfl
          exact hother rfl
        · rfl

/-- **Only the file that is written changes.** -/
theorem kindAt_write (h : root.write path text = .ok after) :
    ∃ there, root.target path = .ok there ∧ after.at? there = some (.file (some text)) ∧
      ∀ names, names ≠ there → after.kindAt names = root.kindAt names := by
  obtain ⟨there, htarget, hafter⟩ := exists_of_bind_eq_ok h
  obtain ⟨-, name, here, es, -, rfl, -, hat, -, hfile⟩ := target_eq_ok htarget
  obtain rfl : put (.file (some text)) (here ++ [name]) root = after := Except.ok.inj hafter
  exact ⟨here ++ [name], htarget, at?_put (.file (some text)) name here root es hat,
    fun names => kindAt_put (some text) name here root es names hat hfile⟩

end Scenarist.Entry
