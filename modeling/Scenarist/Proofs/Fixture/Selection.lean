/-
  Selection — which fixtures a list of requested categories puts to the test.

  1. **Below (`Under`)** — a category lies below another one if its first names are the names of that
     one (`under_iff_names`).  It is whole names that count: `bas` selects nothing in `basic`.

  2. **Requests (`Requested`)** — a request adds what it selects to what the requests before it have
     selected (`mem_chosen_add`).  In the end a category is selected if some request selects it
     (`mem_chosen_select`), so the order of the requests is lost, and how often one is made.

  3. **Runs** — the fixtures that are run are those of the selected categories, in the order of a run
     without requests (`trials_run_requested`).
-/
import Scenarist.Proofs.Fixture.Discovery
import Scenarist.Proofs.Text.Split

namespace Scenarist.Fixture

variable {all requested more : List Text} {s : Selection} {a b c wanted category path : Text}
  {names : List Text} {root e : Entry} {es : List (Text × Entry)} {find : Lookup}
  {o : Extraction.Options}

/-! ## Below -/

/-- A category is the wanted one or lies below it. -/
def Under (wanted category : Text) : Prop := category = wanted ∨ wanted ++ ['/'] <+: category

theorem isUnder_iff : isUnder wanted category = true ↔ Under wanted category := by
  simp [isUnder, Under]

instance (wanted category : Text) : Decidable (Under wanted category) :=
  decidable_of_iff _ isUnder_iff

theorem Under.refl (c : Text) : Under c c := .inl rfl

theorem Under.trans (hab : Under a b) (hbc : Under b c) : Under a c := by
  rcases hbc with rfl | hbc
  · exact hab
  · rcases hab with rfl | hab
    · exact .inr hbc
    · exact .inr (hab.trans ((List.prefix_append b _).trans hbc))

/-- The names of a category. -/
def namesOf (category : Text) : List Text := Text.splitWhere (· == '/') category

/-- **Whole names count.**  A category lies below another one exactly if it starts with the names of
that one. -/
theorem under_iff_names : Under wanted category ↔ namesOf wanted <+: namesOf category := by
  constructor
  · rintro (rfl | ⟨rest, rfl⟩)
    · exact List.prefix_refl _
    · have hsplit : namesOf (wanted ++ ['/'] ++ rest) = namesOf wanted ++ namesOf rest := by
        rw [List.append_assoc]
        exact Text.splitWhere_append_cons rfl wanted rest
      rw [hsplit]
      exact List.prefix_append _ _
  · rintro ⟨rest, hrest⟩
    have hcategory : category = List.intercalate ['/'] (namesOf wanted ++ rest) := by
      rw [hrest, namesOf, Text.intercalate_splitWhere]
    have hwanted : List.intercalate ['/'] (namesOf wanted) = wanted := Text.intercalate_splitWhere ..
    by_cases hnone : rest = []
    · rw [hnone, List.append_nil, hwanted] at hcategory
      exact .inl hcategory
    · have hnames : namesOf wanted ≠ [] := Text.splitWhere_ne_nil _ _
      rw [Text.intercalate_append hnames hnone, hwanted] at hcategory
      exact .inr ⟨_, hcategory.symm⟩

/-! ## Requests -/

/-- Some request selects a category. -/
def Requested (requested : List Text) (category : Text) : Prop :=
  ∃ r ∈ requested, Under (trimSlashes r) category

instance (requested : List Text) (category : Text) : Decidable (Requested requested category) :=
  inferInstanceAs (Decidable (∃ r ∈ requested, Under (trimSlashes r) category))

/-- A request that selects nothing further is noted. -/
theorem add_of_known (h : ∀ c ∈ all, Under wanted c → c ∈ s.chosen) :
    s.add all wanted = { s with unmatched := s.unmatched ++ [wanted] } := by
  refine if_pos (List.isEmpty_iff.2 (List.filter_eq_nil_iff.2 fun c hc => ?_))
  simpa [isUnder_iff] using h c hc

/-- Any other request adds what it selects. -/
theorem add_of_new (h : ∃ c ∈ all, Under wanted c ∧ c ∉ s.chosen) :
    s.add all wanted = { s with
      chosen := s.chosen ++ all.filter fun c => isUnder wanted c && !s.chosen.contains c } := by
  obtain ⟨c, hc, hunder, hnew⟩ := h
  refine if_neg fun hnone => ?_
  have hmem : c ∈ all.filter fun c => isUnder wanted c && !s.chosen.contains c := by
    simp [hc, isUnder_iff.2 hunder, hnew]
  exact List.ne_nil_of_mem hmem (List.isEmpty_iff.1 hnone)

/-- With one more request, what it selects is selected too. -/
theorem mem_chosen_add :
    c ∈ (s.add all wanted).chosen ↔ c ∈ s.chosen ∨ c ∈ all ∧ Under wanted c := by
  by_cases h : ∃ c ∈ all, Under wanted c ∧ c ∉ s.chosen
  · rw [add_of_new h, List.mem_append]
    by_cases hc : c ∈ s.chosen <;> simp [hc, isUnder_iff]
  · have hknown : ∀ c ∈ all, Under wanted c → c ∈ s.chosen := by simpa using h
    rw [add_of_known hknown, or_iff_left_of_imp fun ⟨hc, hunder⟩ => hknown c hc hunder]

theorem mem_chosen_foldl (ws : List Text) (s : Selection) :
    c ∈ (ws.foldl (Selection.add all) s).chosen ↔
      c ∈ s.chosen ∨ c ∈ all ∧ ∃ w ∈ ws, Under w c := by
  induction ws generalizing s with
  | nil => simp
  | cons w ws ih =>
    rw [List.foldl_cons, ih, mem_chosen_add, List.exists_mem_cons_iff, and_or_left, or_assoc]

/-- **What is selected** is what some request selects. -/
theorem mem_chosen_select (hrequested : requested ≠ []) :
    c ∈ (select all requested).chosen ↔ c ∈ all ∧ Requested requested c := by
  rw [select, if_neg (by simpa using hrequested), mem_chosen_foldl]
  simp [Requested]

/-- Further requests make no difference if they are for what is requested already. -/
theorem requested_congr (hkept : requested ⊆ more)
    (hbelow : ∀ m ∈ more, Requested requested (trimSlashes m)) :
    Requested more c ↔ Requested requested c := by
  constructor
  · rintro ⟨m, hm, hmc⟩
    obtain ⟨r, hr, hrm⟩ := hbelow m hm
    exact ⟨r, hr, hrm.trans hmc⟩
  · rintro ⟨r, hr, hrc⟩
    exact ⟨r, hkept hr, hrc⟩

theorem requested_singleton : Requested [a] c ↔ Under (trimSlashes a) c := by simp [Requested]

/-! ## Runs -/

/-- The places of the fixtures that requests select, in the order in which they are run. -/
def requestedPlaces (requested : List Text) (e : Entry) : List (List Text) :=
  (places e).filter fun names => Requested requested (categoryOf names.dropLast)

/-- The fixtures of the selected categories are put to the test. -/
theorem trials_run_requested (hfind : find path = .ok (.folder es)) (hrequested : requested ≠ []) :
    (run find o path requested).trials
      = (requestedPlaces requested (.folder es)).map fun names =>
          attempt find o (joinPath path names) := by
  have hselected : ∀ f ∈ discover (.folder es),
      (select (categories (discover (.folder es))) requested).chosen.contains f.category
        = decide (Requested requested (categoryOf f.names.dropLast)) := by
    intro f hf
    have hmem : f.category ∈ categories (discover (.folder es)) := by
      rw [categories, List.mem_eraseDups]
      exact List.mem_map_of_mem hf
    rw [← category_discover hf, Bool.eq_iff_iff, List.contains_iff_mem, decide_eq_true_eq,
      mem_chosen_select hrequested, and_iff_right hmem]
  simp only [run, hfind]
  rw [List.filter_congr hselected, requestedPlaces, places, List.filter_map, List.map_map]
  rfl

/-- The trial of a fixture is among those of a request exactly if the request selects its category. -/
theorem attempt_mem_trials_iff (hroot : root.Proper) (hfind : root.find path = .ok (.folder es))
    (hnames : names ∈ places (.folder es)) (r : Text) :
    attempt root.find o (joinPath path names) ∈ (run root.find o path [r]).trials ↔
      Under (trimSlashes r) (categoryOf names.dropLast) := by
  rw [trials_run_requested hfind (List.cons_ne_nil r []), List.mem_map]
  simp only [requestedPlaces, List.mem_filter, decide_eq_true_eq, requested_singleton]
  constructor
  · rintro ⟨found, ⟨hfound, hunder⟩, hsame⟩
    have hpath : joinPath path found = joinPath path names := by
      have hpaths := congrArg Trial.path hsame
      rwa [path_attempt, path_attempt] at hpaths
    obtain ⟨⟨c, hc⟩, -⟩ := (mem_places (hroot.find hfind)).1 hfound
    obtain ⟨⟨d, hd⟩, -⟩ := (mem_places (hroot.find hfind)).1 hnames
    rwa [← joinPath_inj hroot hfind hc hd hpath]
  · exact fun hunder => ⟨names, ⟨hnames, hunder⟩, rfl⟩

/-- **Requests filter fixtures.**  In a folder of a proper tree, a run with requests puts those fixtures
to the test whose category is a requested one or lies below it, each once and in the order of a run
without requests.  Another order of the requests changes nothing, and neither do repetitions, nor
further requests of which each is for a requested category or for one below.  And a request selects by
whole names only. -/
theorem requests_filter_fixtures (hroot : root.Proper)
    (hfind : root.find path = .ok (.folder es)) (o : Extraction.Options)
    (hrequested : requested ≠ []) :
    let fixtures := places (.folder es)
    let trial := fun names => attempt root.find o (joinPath path names)
    let trials := fun requests => (run root.find o path requests).trials
    trials [] = fixtures.map trial ∧
    trials requested
      = (fixtures.filter fun names => Requested requested (categoryOf names.dropLast)).map trial ∧
    ((trials requested).map Trial.path).Nodup ∧
    (∀ again, (∀ r, r ∈ again ↔ r ∈ requested) → trials again = trials requested) ∧
    (∀ more, requested ⊆ more → (∀ m ∈ more, Requested requested (trimSlashes m)) →
      trials more = trials requested) ∧
    ∀ names ∈ fixtures, ∀ r, trial names ∈ trials [r] ↔
      namesOf (trimSlashes r) <+: namesOf (categoryOf names.dropLast) := by
  intro fixtures trial trials
  have hall : trials [] = fixtures.map trial := trials_run hfind o
  have htrials : trials requested = (requestedPlaces requested (.folder es)).map trial :=
    trials_run_requested hfind hrequested
  have hmore : ∀ more, requested ⊆ more → (∀ m ∈ more, Requested requested (trimSlashes m)) →
      trials more = trials requested := by
    intro more hkept hbelow
    have hsome : more ≠ [] := by
      rintro rfl
      exact hrequested (List.subset_nil.1 hkept)
    rw [htrials, show trials more = _ from trials_run_requested hfind hsome, requestedPlaces,
      requestedPlaces]
    simp only [requested_congr hkept hbelow]
    rfl
  refine ⟨hall, htrials, ?_, fun again hsame => ?_, hmore, fun names hnames r => ?_⟩
  · rw [htrials, map_path_attempts]
    exact (nodup_joinPath hroot hfind).sublist (List.filter_sublist.map _)
  · exact hmore again (fun r hr => (hsame r).2 hr) fun r hr => ⟨r, (hsame r).1 hr, .refl _⟩
  · rw [← under_iff_names]
    exact attempt_mem_trials_iff hroot hfind hnames r

/-- A folder with a category, one below it, and one whose name goes on where that of the first ends. -/
def nestedEntries : List (Text × Entry) := [
  ("basic".toList, .folder [
    ("a.test.md".toList, .file (some [])),
    ("more".toList, .folder [("b.test.md".toList, .file (some []))])]),
  ("basics".toList, .folder [("c.test.md".toList, .file (some []))])]

theorem discover_nestedEntries : discover (.folder nestedEntries) = [
    ⟨"basic".toList, ["basic".toList, "a.test.md".toList]⟩,
    ⟨"basic/more".toList, ["basic".toList, "more".toList, "b.test.md".toList]⟩,
    ⟨"basics".toList, ["basics".toList, "c.test.md".toList]⟩] :=
  List.mergeSort_of_pairwise (by decide +kernel)

/-- The inner category is requested first, and then the outer one, twice.  The fixtures of both are run
once, as without requests, and that of `basics` is not. -/
theorem requests_filter_fixtures_nested :
    let root := Entry.folder [("suite".toList, .folder nestedEntries)]
    let requested := ["basic/more".toList, "/basic/".toList, "basic".toList]
    root.Proper ∧ root.find "suite".toList = .ok (.folder nestedEntries) ∧ requested ≠ [] ∧
    (run root.find {} "suite".toList requested).trials.map Trial.path
      = ["suite/basic/a.test.md".toList, "suite/basic/more/b.test.md".toList] := by
  intro root requested
  have hmore : Entry.Proper (.folder [("b.test.md".toList, .file (some []))]) :=
    .folder (by decide) (by decide) (List.forall_mem_singleton.2 (.file _))
  have hbasic : Entry.Proper (.folder [("a.test.md".toList, .file (some [])),
      ("more".toList, .folder [("b.test.md".toList, .file (some []))])]) :=
    .folder (by decide) (by decide)
      (List.forall_mem_cons.2 ⟨.file _, List.forall_mem_singleton.2 hmore⟩)
  have hbasics : Entry.Proper (.folder [("c.test.md".toList, .file (some []))]) :=
    .folder (by decide) (by decide) (List.forall_mem_singleton.2 (.file _))
  have hsuite : Entry.Proper (.folder nestedEntries) :=
    .folder (by decide) (by decide)
      (List.forall_mem_cons.2 ⟨hbasic, List.forall_mem_singleton.2 hbasics⟩)
  have hroot : root.Proper := .folder (by decide) (by decide) (List.forall_mem_singleton.2 hsuite)
  have hfind : root.find "suite".toList = .ok (.folder nestedEntries) := rfl
  have hrequested : requested ≠ [] := List.cons_ne_nil _ _
  obtain ⟨-, htrials, -, -, -, -⟩ := requests_filter_fixtures hroot hfind {} hrequested
  refine ⟨hroot, hfind, hrequested, (congrArg (List.map Trial.path) htrials).trans ?_⟩
  rw [map_path_attempts, places, discover_nestedEntries]
  decide +kernel

end Scenarist.Fixture
