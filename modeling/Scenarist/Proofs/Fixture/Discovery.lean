/-
  Discovery — which fixtures of a folder are run, how often, and in which order.

  1. **The order** — fixtures are compared by category and then by the names that lead to them, which
     is a linear order.  A sorted list of fixtures therefore only depends on which fixtures there are
     (`mergeSort_eq_of_perm`), and not on how folders list them (`discover_relisted`).

  2. **Their places** — in a proper tree a fixture is found for each file whose name is that of one,
     and found once (`mem_places`, `pairwise_places`).

  3. **Their paths** — behind the path of the folder, the names of a place lead to its file
     (`find_joinPath`), so two places have two paths (`joinPath_inj`).

  4. **The run** — each fixture is put to the test at its path, and what is found there is the same in
     any order (`trials_run`, `run_relisted`).
-/
import Mathlib.Data.Char
import Mathlib.Data.List.Lex
import Mathlib.Data.Prod.Lex
import Scenarist.Fixture.Suite
import Scenarist.Proofs.Files.Listing

namespace Scenarist.Fixture

variable {e e' root after : Entry} {es : List (Text × Entry)} {f : Found} {fs gs : List Found}
  {path : Text} {names there : List Text} {find : Lookup} {o : Extraction.Options}

/-! ## The order -/

theorem Found.le_iff (f g : Found) :
    f.le g = true ↔ toLex (f.category, f.names) ≤ toLex (g.category, g.names) := by
  rw [Prod.Lex.toLex_le_toLex, Found.le]
  simp

theorem Found.trans (f g h : Found) (hfg : f.le g = true) (hgh : g.le h = true) :
    f.le h = true := by
  rw [Found.le_iff] at hfg hgh ⊢
  exact le_trans hfg hgh

theorem Found.total (f g : Found) : (f.le g || g.le f) = true := by
  rw [Bool.or_eq_true, Found.le_iff, Found.le_iff]
  exact le_total _ _

theorem Found.antisymm (f g : Found) (hfg : f.le g = true) (hgf : g.le f = true) : f = g := by
  rw [Found.le_iff] at hfg hgf
  have hkey := toLex.injective (le_antisymm hfg hgf)
  cases f
  cases g
  cases hkey
  rfl

/-- What is sorted only depends on which fixtures there are. -/
theorem mergeSort_eq_of_perm (h : fs.Perm gs) : fs.mergeSort Found.le = gs.mergeSort Found.le := by
  refine List.Perm.eq_of_pairwise (fun f g _ _ => Found.antisymm f g)
    (List.pairwise_mergeSort Found.trans Found.total fs)
    (List.pairwise_mergeSort Found.trans Found.total gs) ?_
  exact (List.mergeSort_perm fs Found.le).trans (h.trans (List.mergeSort_perm gs Found.le).symm)

/-- The fixtures of a folder are the same ones, in the same order, however they are listed. -/
theorem discover_relisted (h : Entry.Relisted e e') : discover e = discover e' :=
  mergeSort_eq_of_perm ((((h.files []).map Prod.fst).filter _).map _)

/-! ## Their places -/

/-- Names lead to a fixture: a file whose name ends in `.test.md`. -/
def LeadsToFixture (e : Entry) (names : List Text) : Prop :=
  (∃ content, e.at? names = some (.file content)) ∧
    ∃ folder name, names = folder ++ [name] ∧ ".test.md".toList <:+ name

/-- The names that lead to the fixtures of a folder, in the order in which they are run. -/
def places (e : Entry) : List (List Text) := (discover e).map Found.names

theorem any_isFixtureName_iff : names.getLast?.any isFixtureName = true ↔
    ∃ folder name, names = folder ++ [name] ∧ ".test.md".toList <:+ name := by
  rw [Option.any_eq_true]
  simp only [isFixtureName, List.isSuffixOf_iff_suffix, List.getLast?_eq_some_iff]
  constructor
  · rintro ⟨name, ⟨folder, rfl⟩, hname⟩
    exact ⟨folder, name, rfl, hname⟩
  · rintro ⟨folder, name, rfl, hname⟩
    exact ⟨name, ⟨folder, rfl⟩, hname⟩

theorem places_perm (e : Entry) : (places e).Perm
    (((e.files []).map Prod.fst).filter fun names => names.getLast?.any isFixtureName) := by
  have hperm := (List.mergeSort_perm (fixturesAmong ((e.files []).map Prod.fst)) Found.le).map
    Found.names
  have hnames : Found.names ∘ (fun names => ⟨categoryOf names.dropLast, names⟩) = id := rfl
  rwa [fixturesAmong, List.map_map, hnames, List.map_id] at hperm

/-- A fixture is found for each file of such a name, and for nothing else. -/
theorem mem_places (h : e.Proper) : names ∈ places e ↔ LeadsToFixture e names := by
  rw [(places_perm e).mem_iff, List.mem_filter, any_isFixtureName_iff, Entry.mem_map_files h]
  simp only [List.nil_append, exists_eq_left', LeadsToFixture]

/-- No fixture is found twice. -/
theorem nodup_places (h : e.Proper) : (places e).Nodup :=
  (places_perm e).nodup_iff.2 ((Entry.nodup_files h []).filter _)

theorem category_discover (hf : f ∈ discover e) : f.category = categoryOf f.names.dropLast := by
  rw [discover, (List.mergeSort_perm _ _).mem_iff, fixturesAmong, List.mem_map] at hf
  obtain ⟨names, -, rfl⟩ := hf
  rfl

/-- Whether a place comes before another one: by the category, and then by the names. -/
def Precedes (a b : List Text) : Prop :=
  categoryOf a.dropLast < categoryOf b.dropLast ∨
    categoryOf a.dropLast = categoryOf b.dropLast ∧ a < b

theorem pairwise_places (h : e.Proper) : (places e).Pairwise Precedes := by
  have hsorted := List.pairwise_mergeSort Found.trans Found.total
    (fixturesAmong ((e.files []).map Prod.fst))
  have hdiffer := List.pairwise_map.1 (nodup_places h)
  rw [places, List.pairwise_map]
  refine (hsorted.and hdiffer).imp_of_mem fun {f g} hf hg ⟨hle, hne⟩ => ?_
  rw [Found.le_iff, Prod.Lex.toLex_le_toLex, category_discover hf, category_discover hg] at hle
  exact hle.imp_right fun ⟨hcategory, hnames⟩ => ⟨hcategory, lt_of_le_of_ne hnames hne⟩

/-! ## Their paths -/

/-- One more name behind a path leads to that entry of the folder. -/
theorem leads_joinPath_singleton {name : Text} (h : root.Leads path there)
    (hat : root.at? there = some (.folder es)) (hname : Entry.IsName name)
    (hentry : (es.lookup name).isSome) : root.Leads (joinPath path [name]) (there ++ [name]) := by
  obtain ⟨hne, hslash, hdot, hdots⟩ := hname
  have hstep : Entry.step? es there name = some (there ++ [name]) := by
    rw [Entry.step?, if_neg (by simp [hne, hdot]), if_neg hdots, if_pos hentry]
  rw [joinPath, List.foldl_cons, List.foldl_nil]
  split
  · next hlast =>
    obtain ⟨front, rfl⟩ := List.getLast?_eq_some_iff.1 hlast
    rw [List.append_assoc]
    exact h.behind_slash hslash hat hstep
  · exact h.behind hslash hat hstep

theorem joinPath_cons (path name : Text) (names : List Text) :
    joinPath path (name :: names) = joinPath (joinPath path [name]) names := rfl

/-- The names behind the path of a folder lead to what they lead to from there. -/
theorem leads_joinPath (hroot : root.Proper) (names : List Text) : ∀ {path : Text}
    {there : List Text} {e' : Entry}, root.Leads path there → root.at? (there ++ names) = some e' →
    root.Leads (joinPath path names) (there ++ names) := by
  induction names with
  | nil =>
    intro path there e' h _
    rwa [List.append_nil]
  | cons name names ih =>
    intro path there e' h hat
    have hsplit : there ++ name :: names = (there ++ [name]) ++ names := by simp
    obtain ⟨e, he, hrest⟩ := Option.bind_eq_some_iff.1 ((Entry.at?_append ..).symm.trans hat)
    cases e with
    | file content => cases hrest
    | folder es =>
      have hproper := hroot.at? he
      obtain ⟨inner, hmem, -⟩ := (Entry.at?_cons_eq_some_iff hproper.differ).1 hrest
      have hentry : (es.lookup name).isSome := by
        rw [(Entry.lookup_eq_some_iff_mem hproper.differ).2 hmem]
        rfl
      rw [joinPath_cons, hsplit]
      rw [hsplit] at hat
      exact ih (leads_joinPath_singleton h he (hproper.named _ hmem) hentry) hat

/-- Behind the path of an entry, names lead where they lead to from that entry. -/
theorem leads_of_find (hroot : root.Proper) (hfind : root.find path = .ok e) :
    ∃ there, ∀ names inner, e.at? names = some inner →
      root.Leads (joinPath path names) (there ++ names) ∧ root.at? (there ++ names) = some inner := by
  obtain ⟨there, hleads, hthere⟩ := Entry.find_eq_ok_iff.1 hfind
  refine ⟨there, fun names inner hat => ?_⟩
  have hbehind : root.at? (there ++ names) = some inner := by
    rw [Entry.at?_append, hthere]
    exact hat
  exact ⟨leads_joinPath hroot names hleads hbehind, hbehind⟩

/-- At the path of a fixture its file is found. -/
theorem find_joinPath (hroot : root.Proper) (hfind : root.find path = .ok e)
    (hat : e.at? names = some e') : root.find (joinPath path names) = .ok e' := by
  obtain ⟨there, hthere⟩ := leads_of_find hroot hfind
  exact Entry.find_eq_ok_iff.2 ⟨there ++ names, hthere names e' hat⟩

/-- Different names behind a path make different paths. -/
theorem joinPath_inj {names₁ names₂ : List Text} {e₁ e₂ : Entry} (hroot : root.Proper)
    (hfind : root.find path = .ok e) (h₁ : e.at? names₁ = some e₁) (h₂ : e.at? names₂ = some e₂)
    (hsame : joinPath path names₁ = joinPath path names₂) : names₁ = names₂ := by
  obtain ⟨there, hthere⟩ := leads_of_find hroot hfind
  have hfirst := (hthere names₁ e₁ h₁).1
  have hsecond := (hthere names₂ e₂ h₂).1
  rw [hsame] at hfirst
  exact List.append_cancel_left (hfirst.unique hsecond)

/-! ## The run -/

theorem path_attempt (find : Lookup) (o : Extraction.Options) (path : Text) :
    (attempt find o path).path = path := by
  unfold attempt
  split
  · rfl
  · split <;> rfl

/-- A trial only depends on what is found at its path. -/
theorem attempt_congr {find find' : Lookup} (h : find path = find' path) (o : Extraction.Options) :
    attempt find o path = attempt find' o path := by
  rw [attempt, attempt, Lookup.read, Lookup.read, h]

/-- The trials of fixtures have the paths of the fixtures. -/
theorem map_path_attempts (find : Lookup) (o : Extraction.Options) (path : Text)
    (found : List (List Text)) :
    (found.map fun names => attempt find o (joinPath path names)).map Trial.path
      = found.map (joinPath path) := by
  rw [List.map_map]
  exact List.map_congr_left fun names _ => path_attempt ..

/-- No two fixtures have the same path. -/
theorem nodup_joinPath (hroot : root.Proper) (hfind : root.find path = .ok e) :
    ((places e).map (joinPath path)).Nodup := by
  have hproper := hroot.find hfind
  refine List.Nodup.map_on (fun a ha b hb hsame => ?_) (nodup_places hproper)
  obtain ⟨⟨c, hc⟩, -⟩ := (mem_places hproper).1 ha
  obtain ⟨⟨d, hd⟩, -⟩ := (mem_places hproper).1 hb
  exact joinPath_inj hroot hfind hc hd hsame

/-- Where no category is requested, every fixture is put to the test. -/
theorem trials_run (hfind : find path = .ok (.folder es)) (o : Extraction.Options) :
    (run find o path []).trials
      = (places (.folder es)).map fun names => attempt find o (joinPath path names) := by
  have hall : ∀ f ∈ discover (.folder es),
      (categories (discover (.folder es))).contains f.category = true := by
    intro f hf
    rw [List.contains_iff_mem, categories, List.mem_eraseDups]
    exact List.mem_map_of_mem hf
  simp only [run, hfind, select, List.isEmpty_nil, if_true]
  rw [List.filter_eq_self.2 hall, places, List.map_map]
  rfl

/-- The order in which folders list their entries makes no difference to a run. -/
theorem run_relisted (hroot : root.Proper) (hfind : root.find path = .ok (.folder es))
    (h : Entry.Relisted root after) (o : Extraction.Options) (requested : List Text) :
    run after.find o path requested = run root.find o path requested := by
  obtain ⟨e, hafter, hrel⟩ := h.find hroot hfind
  cases e with
  | file content => cases hrel.kind
  | folder fs =>
    simp only [run, hfind, hafter, ← discover_relisted hrel, Run.mk.injEq, and_true]
    refine List.map_congr_left fun f hf => attempt_congr ?_ o
    -- at the path of a fixture there is a file, and a file is the same in any order
    have hplace : f.names ∈ places (.folder es) := List.mem_map_of_mem (List.mem_filter.1 hf).1
    obtain ⟨⟨content, hat⟩, -⟩ := (mem_places (hroot.find hfind)).1 hplace
    have hfile := find_joinPath hroot hfind hat
    obtain ⟨e, hsame, hfileRel⟩ := h.find hroot hfile
    rw [hfile, hsame, hfileRel.eq_file]

/-- **Fixtures are found once.**  In a folder of a proper tree there is one trial for each file at any
depth whose name ends in `.test.md`, and none for anything else.  The trials come by category and then
by path, and they are the same in whatever order folders list their entries. -/
theorem fixtures_found_once (hroot : root.Proper) (hfind : root.find path = .ok (.folder es))
    (o : Extraction.Options) :
    ∃ found : List (List Text),
      (run root.find o path []).trials
        = found.map (fun names => attempt root.find o (joinPath path names)) ∧
      (∀ names, names ∈ found ↔ LeadsToFixture (.folder es) names) ∧
      (∀ names ∈ found, ∃ content, (Entry.folder es).at? names = some (.file content) ∧
        root.find (joinPath path names) = .ok (.file content)) ∧
      ((run root.find o path []).trials.map Trial.path).Nodup ∧
      found.Pairwise Precedes ∧
      ∀ after, Entry.Relisted root after → ∀ requested,
        run after.find o path requested = run root.find o path requested := by
  have hproper := hroot.find hfind
  refine ⟨places (.folder es), trials_run hfind o, fun names => mem_places hproper,
    fun names hnames => ?_, ?_, pairwise_places hproper,
    fun after h requested => run_relisted hroot hfind h o requested⟩
  · obtain ⟨⟨content, hat⟩, -⟩ := (mem_places hproper).1 hnames
    exact ⟨content, hat, find_joinPath hroot hfind hat⟩
  · rw [trials_run hfind, map_path_attempts]
    exact nodup_joinPath hroot hfind

/-- What is in a folder of fixtures: one of them, and a folder with another one and a note. -/
def suiteEntries : List (Text × Entry) := [
  ("b.test.md".toList, .file (some [])),
  ("tables".toList, .folder [
    ("notes.md".toList, .file none),
    ("a.test.md".toList, .file (some []))])]

/-- The same in another order. -/
def relistedEntries : List (Text × Entry) := [
  ("tables".toList, .folder [
    ("a.test.md".toList, .file (some [])),
    ("notes.md".toList, .file none)]),
  ("b.test.md".toList, .file (some []))]

/-- The fixture in the inner folder is run, and both orders give the same run. -/
theorem fixtures_found_once_suiteEntries :
    let root := Entry.folder [("suite".toList, .folder suiteEntries)]
    let after := Entry.folder [("suite".toList, .folder relistedEntries)]
    let suite := run root.find {} "suite".toList []
    root.Proper ∧ root.find "suite".toList = .ok (.folder suiteEntries) ∧
      "suite/tables/a.test.md".toList ∈ suite.trials.map Trial.path ∧
      run after.find {} "suite".toList [] = suite := by
  intro root after suite
  have htables : Entry.Proper (.folder [("notes.md".toList, .file none),
      ("a.test.md".toList, .file (some []))]) :=
    .folder (by decide) (by decide)
      (List.forall_mem_cons.2 ⟨.file _, List.forall_mem_singleton.2 (.file _)⟩)
  have hsuite : Entry.Proper (.folder suiteEntries) :=
    .folder (by decide) (by decide)
      (List.forall_mem_cons.2 ⟨.file _, List.forall_mem_singleton.2 htables⟩)
  have hroot : root.Proper := .folder (by decide) (by decide) (List.forall_mem_singleton.2 hsuite)
  have hfind : root.find "suite".toList = .ok (.folder suiteEntries) := by rfl
  have hrelisted : Entry.Relisted root after :=
    .inside [] [] _ (.trans (.permute (.swap _ _ _)) (.inside [] _ _ (.permute (.swap _ _ _))))
  obtain ⟨found, htrials, hfound, -, -, -, hsame⟩ := fixtures_found_once hroot hfind {}
  have hplace : ["tables".toList, "a.test.md".toList] ∈ found :=
    (hfound _).2 ⟨⟨some [], rfl⟩, ["tables".toList], "a.test.md".toList, rfl, by decide⟩
  refine ⟨hroot, hfind, ?_, hsame after hrelisted []⟩
  have htrial := List.mem_map_of_mem (f := Trial.path) (List.mem_map_of_mem
    (f := fun names => attempt root.find {} (joinPath "suite".toList names)) hplace)
  rwa [← htrials, path_attempt] at htrial

end Scenarist.Fixture
