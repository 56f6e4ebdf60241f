/-
  Paths — where a path leads in a tree of files.

  1. **Names** — names that are followed one after another are followed from entry to entry
     (`at?_cons`, `at?_append`).

  2. **Walks** — a walk takes one step for each name, always from a folder (`walk_cons_eq_ok_iff`), and
     a walk over names and more names is one walk after another (`walk_append`).

  3. **Paths** — a path `Leads` where the walk over its names ends, and there is found what is found at
     the path (`find_eq_ok_iff`).  A slash and a name behind a path lead one step further
     (`Leads.behind`), and so does the name alone where the path ends in a slash already
     (`Leads.behind_slash`).
-/
import Scenarist.Files.Tree
import Scenarist.Proofs.Text.Split

namespace Scenarist

/-- Steps one after another succeed if the first does and then the second. -/
theorem exists_of_bind_eq_ok {ε α β : Type} {x : Except ε α} {f : α → Except ε β} {b : β}
    (h : x >>= f = .ok b) : ∃ a, x = .ok a ∧ f a = .ok b := by
  cases x with
  | error e => cases h
  | ok a => exact ⟨a, rfl, h⟩

namespace Entry

variable {root e : Entry} {here there next names : List Text} {name path : Text}
  {es : List (Text × Entry)}

/-! ## Names -/

theorem at?_cons (es : List (Text × Entry)) (name : Text) (names : List Text) :
    (folder es).at? (name :: names) = (es.lookup name).bind fun e => e.at? names := by
  rw [at?]

/-- Names that lead on from an entry lead on from where it was found. -/
theorem at?_append (here names : List Text) : ∀ root : Entry,
    root.at? (here ++ names) = (root.at? here).bind fun e => e.at? names := by
  induction here with
  | nil =>
    intro root
    rw [List.nil_append, at?, Option.bind_some]
  | cons name here ih =>
    intro root
    cases root with
    | file content => rfl
    | folder es =>
      rw [List.cons_append, at?_cons, at?_cons, Option.bind_assoc]
      simp only [ih]

/-! ## Walks -/

/-- Where one name leads to from a folder that `here` leads to. -/
def step? (es : List (Text × Entry)) (here : List Text) (name : Text) : Option (List Text) :=
  if name.isEmpty || name = ['.'] then some here
  else if name = ['.', '.'] then if here.isEmpty then none else some here.dropLast
  else if (es.lookup name).isSome then some (here ++ [name])
  else none

/-- An empty name leads nowhere else. -/
theorem step?_nil (es : List (Text × Entry)) (here : List Text) : step? es here [] = some here := by
  rw [step?, List.isEmpty_nil, Bool.true_or, if_pos rfl]

/-- A walk goes on from name to name, and always from a folder. -/
theorem walk_cons_eq_ok_iff : root.walk here (name :: names) = .ok there ↔
    ∃ es next, root.at? here = some (folder es) ∧ step? es here name = some next ∧
      root.walk next names = .ok there := by
  rw [walk]
  cases hat : root.at? here with
  | none => simp
  | some e =>
    cases e with
    | file content => simp
    | folder es =>
      have hfolder : (∃ fs next, some (folder es) = some (folder fs) ∧
          step? fs here name = some next ∧ root.walk next names = .ok there)
          ↔ ∃ next, step? es here name = some next ∧ root.walk next names = .ok there := by
        constructor
        · rintro ⟨fs, next, hfs, hnext⟩
          cases hfs
          exact ⟨next, hnext⟩
        · rintro ⟨next, hnext⟩
          exact ⟨es, next, rfl, hnext⟩
      rw [hfolder]
      unfold step?
      dsimp only
      -- each of the five cases of a walk is one of a step
      split
      · simp
      · split
        · split <;> simp
        · split <;> simp

/-- A walk to the end of some names goes on with the names after them. -/
theorem walk_append_eq_ok_iff (front more : List Text) : ∀ here : List Text,
    root.walk here (front ++ more) = .ok there ↔
      ∃ mid, root.walk here front = .ok mid ∧ root.walk mid more = .ok there := by
  induction front with
  | nil =>
    intro here
    simp [walk]
  | cons name front ih =>
    intro here
    simp only [List.cons_append, walk_cons_eq_ok_iff, ih]
    constructor
    · rintro ⟨es, next, hat, hstep, mid, hfront, hmore⟩
      exact ⟨mid, ⟨es, next, hat, hstep, hfront⟩, hmore⟩
    · rintro ⟨mid, ⟨es, next, hat, hstep, hfront⟩, hmore⟩
      exact ⟨es, next, hat, hstep, mid, hfront, hmore⟩

/-- A walk takes one more step from where it has led. -/
theorem walk_concat (h : root.walk here names = .ok there) (hat : root.at? there = some (folder es))
    (hstep : step? es there name = some next) : root.walk here (names ++ [name]) = .ok next :=
  (walk_append_eq_ok_iff names [name] here).2
    ⟨there, h, walk_cons_eq_ok_iff.2 ⟨es, next, hat, hstep, rfl⟩⟩

/-! ## Paths -/

theorem names?_ne_nil (h : names? path = some names) : names ≠ [] := by
  unfold names? at h
  split at h
  · cases h
  · obtain rfl := Option.some.inj h
    exact Text.splitWhere_ne_nil _ _

theorem names?_eq_some_iff : names? path = some names ↔
    path ≠ [] ∧ path.head? ≠ some '/' ∧ Text.splitWhere (· == '/') path = names := by
  rw [names?]
  cases path with
  | nil => simp
  | cons c path => by_cases hc : c = '/' <;> simp [hc]

/-- What comes behind a path does not change its beginning. -/
theorem head?_behind (h : path ≠ []) (t : Text) : (path ++ t).head? = path.head? := by
  obtain ⟨c, rest, rfl⟩ := List.exists_cons_of_ne_nil h
  rfl

/-- The names of a path are there to stay when a slash and a name come behind it. -/
theorem names?_behind (h : names? path = some names) (hname : '/' ∉ name) :
    names? (path ++ '/' :: name) = some (names ++ [name]) := by
  obtain ⟨hne, hhead, rfl⟩ := names?_eq_some_iff.1 h
  have hwhole : ∀ c ∈ name, (c == '/') = false := by
    intro c hc
    rw [beq_eq_false_iff_ne]
    rintro rfl
    exact hname hc
  refine names?_eq_some_iff.2 ⟨by simp, ?_, ?_⟩
  · rwa [head?_behind hne]
  · rw [Text.splitWhere_append_cons (by rfl), Text.splitWhere_eq_singleton hwhole]

/-- A path leads to the end of some names. -/
def Leads (root : Entry) (path : Text) (there : List Text) : Prop :=
  ∃ names, names? path = some names ∧ root.walk [] names = .ok there

/-- A path leads to one place at most. -/
theorem Leads.unique (h : root.Leads path there) (h' : root.Leads path next) : there = next := by
  obtain ⟨names, hnames, hwalk⟩ := h
  obtain ⟨names', hnames', hwalk'⟩ := h'
  obtain rfl : names = names' := Option.some.inj (hnames.symm.trans hnames')
  exact Except.ok.inj (hwalk.symm.trans hwalk')

/-- At a path is found what there is where the path leads. -/
theorem find_eq_ok_iff :
    root.find path = .ok e ↔ ∃ there, root.Leads path there ∧ root.at? there = some e := by
  constructor
  · intro h
    unfold find at h
    split at h
    · cases h
    · next names hnames =>
      obtain ⟨there, hwalk, h⟩ := exists_of_bind_eq_ok h
      split at h
      · next e' hat =>
        obtain rfl : e' = e := Except.ok.inj h
        exact ⟨there, ⟨names, hnames, hwalk⟩, hat⟩
      · cases h
  · rintro ⟨there, ⟨names, hnames, hwalk⟩, hat⟩
    simp only [find, hnames, hwalk, bind, Except.bind, hat]

/-- A slash and a name behind a path lead one step further. -/
theorem Leads.behind (h : root.Leads path there) (hname : '/' ∉ name)
    (hat : root.at? there = some (folder es)) (hstep : step? es there name = some next) :
    root.Leads (path ++ '/' :: name) next := by
  obtain ⟨names, hnames, hwalk⟩ := h
  exact ⟨names ++ [name], names?_behind hnames hname, walk_concat hwalk hat hstep⟩

/-- Where a path ends in a slash, a name behind it leads one step further. -/
theorem Leads.behind_slash (h : root.Leads (path ++ ['/']) there) (hname : '/' ∉ name)
    (hat : root.at? there = some (folder es)) (hstep : step? es there name = some next) :
    root.Leads (path ++ '/' :: name) next := by
  obtain ⟨names, hnames, hwalk⟩ := h
  -- a path of a slash alone would leave the tree
  have hne : path ≠ [] := by
    rintro rfl
    cases hnames
  have hpath : names? path = some (Text.splitWhere (· == '/') path) := by
    refine names?_eq_some_iff.2 ⟨hne, ?_, rfl⟩
    have hhead := (names?_eq_some_iff.1 hnames).2.1
    rwa [head?_behind hne] at hhead
  -- and the empty name behind the slash leads nowhere else
  obtain rfl := Option.some.inj (hnames.symm.trans (names?_behind hpath List.not_mem_nil))
  obtain ⟨mid, hfront, hlast⟩ := (walk_append_eq_ok_iff _ _ _).1 hwalk
  obtain ⟨fs, mid', -, hblank, hend⟩ := walk_cons_eq_ok_iff.1 hlast
  rw [step?_nil] at hblank
  obtain rfl : mid = mid' := Option.some.inj hblank
  obtain rfl : mid = there := Except.ok.inj hend
  exact Leads.behind ⟨_, hpath, hfront⟩ hname hat hstep

end Entry

end Scenarist
