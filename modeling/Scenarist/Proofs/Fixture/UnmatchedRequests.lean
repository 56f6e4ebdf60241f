/-
  Unmatched requests — for which requested names the user is told that there is no such category.

  1. **What is told (`idle`)** — a request is told about if each category that it selects is one that a
     request before it selects.  Whether it selects any is not looked at.

  2. **What should be told** — only the requests that select nothing (`Known`).  They always are told
     about, so nothing is missed (`filter_sublist_idle`).  Nothing else is told exactly if each request
     that selects a category brings a new one (`idle_eq_filter_iff`).
-/
import Scenarist.Proofs.Command.OutputFile
import Scenarist.Proofs.Fixture.Selection

namespace Scenarist.Fixture

open Scenarist.Command (TestRequest parseArguments testPlan printed)

variable {all before ws args : List Text} {w : Text} {files : Entry} {es : List (Text × Entry)}
  {find : Lookup} {stdin config : Option Text} {settings : Settings} {r : TestRequest}

/-! ## What is told -/

/-- Some category is the wanted one or lies below it. -/
def Known (all : List Text) (wanted : Text) : Prop := ∃ c ∈ all, Under wanted c

instance (all : List Text) (wanted : Text) : Decidable (Known all wanted) :=
  inferInstanceAs (Decidable (∃ c ∈ all, Under wanted c))

/-- A wanted name selects a category that none of the names before it selects. -/
def BringsNew (all before : List Text) (wanted : Text) : Prop :=
  ∃ c ∈ all, Under wanted c ∧ ∀ w ∈ before, ¬ Under w c

instance (all before : List Text) (wanted : Text) : Decidable (BringsNew all before wanted) :=
  inferInstanceAs (Decidable (∃ c ∈ all, Under wanted c ∧ ∀ w ∈ before, ¬ Under w c))

/-- The wanted names that bring nothing new behind the names `before`. -/
def idle (all before : List Text) : List Text → List Text
  | [] => []
  | w :: ws => (if BringsNew all before w then [] else [w]) ++ idle all (before ++ [w]) ws

theorem idle_cons (all before : List Text) (w : Text) (ws : List Text) :
    idle all before (w :: ws)
      = (if BringsNew all before w then [] else [w]) ++ idle all (before ++ [w]) ws := rfl

theorem BringsNew.known (h : BringsNew all before w) : Known all w := by
  obtain ⟨c, hc, hunder, -⟩ := h
  exact ⟨c, hc, hunder⟩

/-- What has been selected for some names. -/
def selectionOf (all ws : List Text) : Selection := ws.foldl (Selection.add all) ⟨[], []⟩

theorem selectionOf_concat (all ws : List Text) (w : Text) :
    selectionOf all (ws ++ [w]) = (selectionOf all ws).add all w := List.foldl_concat ..

/-- One more name is noted if it brings nothing new. -/
theorem unmatched_selectionOf_concat (all before : List Text) (w : Text) :
    (selectionOf all (before ++ [w])).unmatched
      = (selectionOf all before).unmatched ++ if BringsNew all before w then [] else [w] := by
  have hchosen : ∀ c, c ∈ (selectionOf all before).chosen ↔ c ∈ all ∧ ∃ v ∈ before, Under v c := by
    intro c
    rw [selectionOf, mem_chosen_foldl]
    simp
  rw [selectionOf_concat]
  by_cases h : BringsNew all before w
  · obtain ⟨c, hc, hunder, hnew⟩ := id h
    have hfresh : c ∉ (selectionOf all before).chosen := by
      rw [hchosen]
      rintro ⟨-, v, hv, hvc⟩
      exact hnew v hv hvc
    rw [add_of_new ⟨c, hc, hunder, hfresh⟩, if_pos h, List.append_nil]
  · have hknown : ∀ c ∈ all, Under w c → c ∈ (selectionOf all before).chosen := by
      intro c hc hunder
      rw [hchosen]
      refine ⟨hc, by_contra fun hnone => h ⟨c, hc, hunder, fun v hv hvc => hnone ⟨v, hv, hvc⟩⟩⟩
    rw [add_of_known hknown, if_neg h]

theorem unmatched_selectionOf_append (all before ws : List Text) :
    (selectionOf all (before ++ ws)).unmatched
      = (selectionOf all before).unmatched ++ idle all before ws := by
  induction ws generalizing before with
  | nil => simp [idle]
  | cons w ws ih =>
    have h := ih (before ++ [w])
    rwa [List.append_assoc, List.singleton_append, unmatched_selectionOf_concat, List.append_assoc,
      ← idle_cons] at h

/-- **What is told** are the names that bring nothing new. -/
theorem unmatched_select (all requested : List Text) :
    (select all requested).unmatched = idle all [] (requested.map trimSlashes) := by
  rw [select]
  split
  · next hnone =>
    rw [List.isEmpty_iff.1 hnone]
    rfl
  · exact unmatched_selectionOf_append all [] _

/-! ## What should be told -/

/-- A name that selects nothing is always told about. -/
theorem filter_sublist_idle (all before ws : List Text) :
    (ws.filter fun w => ¬ Known all w).Sublist (idle all before ws) := by
  induction ws generalizing before with
  | nil => exact .slnil
  | cons w ws ih =>
    rw [idle_cons, ← List.singleton_append, List.filter_append]
    refine .append ?_ (ih _)
    by_cases h : Known all w
    · simp [h]
    · have hnew : ¬ BringsNew all before w := fun hnew => h hnew.known
      simp [h, hnew]

/-- What holds of each name and the names before it holds of the first one, and of the others behind
it. -/
theorem forall_splits_cons {P : List Text → Text → Prop} :
    (∀ front v back, w :: ws = front ++ v :: back → P front v) ↔
      P [] w ∧ ∀ front v back, ws = front ++ v :: back → P (w :: front) v := by
  constructor
  · intro h
    exact ⟨h [] w ws rfl, fun front v back hws => h (w :: front) v back (by rw [hws]; rfl)⟩
  · rintro ⟨hfirst, hrest⟩ front v back hws
    cases front with
    | nil =>
      obtain ⟨rfl, -⟩ := List.cons.inj hws
      exact hfirst
    | cons u front =>
      obtain ⟨rfl, hbehind⟩ := List.cons.inj hws
      exact hrest front v back hbehind

/-- **Nothing else is told** exactly if each name that selects a category brings a new one. -/
theorem idle_eq_filter_iff (all before ws : List Text) :
    (idle all before ws = ws.filter fun w => ¬ Known all w) ↔
      ∀ front w back, ws = front ++ w :: back → Known all w → BringsNew all (before ++ front) w := by
  induction ws generalizing before with
  | nil => simp [idle]
  | cons w ws ih =>
    have hrest : (∀ front v back, ws = front ++ v :: back → Known all v →
        BringsNew all (before ++ w :: front) v) ↔
          idle all (before ++ [w]) ws = ws.filter fun w => ¬ Known all w := by
      rw [ih]
      simp only [List.append_assoc, List.singleton_append]
    rw [forall_splits_cons (P := fun front v => Known all v → BringsNew all (before ++ front) v), hrest,
      List.append_nil, idle_cons]
    by_cases hknown : Known all w
    · by_cases hnew : BringsNew all before w
      · simp [hknown, hnew]
      · -- the name is told about, and what should be told of the others is not longer
        have hshort := (filter_sublist_idle all (before ++ [w]) ws).length_le
        refine iff_of_false (fun hsame => ?_) fun h => hnew (h.1 hknown)
        have hlength := congrArg List.length hsame
        rw [if_neg hnew, List.filter_cons_of_neg (by simpa using hknown)] at hlength
        simp only [List.length_append, List.length_singleton] at hlength
        omega
    · have hnew : ¬ BringsNew all before w := fun hnew => hknown hnew.known
      simp [hknown, hnew]

/-! ## Runs -/

/-- A test run of a folder first tells about the names that bring nothing new. -/
theorem stderr_testPlan (settings : Settings) (hfind : find r.path = .ok (.folder es))
    (htest : r.listCategories = false) :
    let all := categories (discover (.folder es))
    let trials := (run find settings.options r.path r.categories).trials
    (testPlan find settings r).outcome.stderr
      = printed ((idle all [] (r.categories.map trimSlashes)).map (unmatchedWarning all)
        ++ if trials.isEmpty then [nothingFound r.path] else reportLines trials) := by
  intro all trials
  have hwarnings : (run find settings.options r.path r.categories).warnings
      = (idle all [] (r.categories.map trimSlashes)).map (unmatchedWarning all) := by
    simp only [run, hfind]
    rw [unmatched_select]
  rw [testPlan, if_neg (by rw [htest]; exact Bool.false_ne_true)]
  dsimp only
  rw [hwarnings]
  split <;> rfl

/-- What a test run comes to is what is planned for it. -/
theorem run_test (hparse : parseArguments args = .ok ⟨config, .test r⟩)
    (hload : Settings.load files.find config = .ok settings) :
    (Command.run files stdin args).1 = (testPlan files.find settings r).outcome := by
  have hplan : Command.plan files.find stdin args = testPlan files.find settings r :=
    Command.plan_test hparse hload
  rw [Command.run, hplan, Command.output_testPlan]

/-- **Warnings for requests.**  But for the lines of a log, a test run of a folder tells the user, before
anything else, about the requests that bring nothing new.  Each request that no category equals or lies
below is among them.  It is only those exactly if every other request selects a category that none before
it selects; where a category is requested once more, the user is told that it is not there. -/
theorem warnings_truthful_iff (hparse : parseArguments args = .ok ⟨config, .test r⟩)
    (hload : Settings.load files.find config = .ok settings)
    (hfind : files.find r.path = .ok (.folder es)) (htest : r.listCategories = false)
    (stdin : Option Text) :
    let all := categories (discover (.folder es))
    let wanted := r.categories.map trimSlashes
    let told := idle all [] wanted
    let trials := (run files.find settings.options r.path r.categories).trials
    (Command.run files stdin args).1.stderr
      = printed (told.map (unmatchedWarning all)
        ++ if trials.isEmpty then [nothingFound r.path] else reportLines trials) ∧
    (∀ w ∈ wanted, ¬ Known all w → w ∈ told) ∧
    ((told = wanted.filter fun w => ¬ Known all w) ↔
      ∀ before w after, wanted = before ++ w :: after → Known all w → BringsNew all before w) := by
  intro all wanted told trials
  refine ⟨?_, fun w hw hunknown => ?_, idle_eq_filter_iff all [] wanted⟩
  · rw [run_test hparse hload]
    exact stderr_testPlan settings hfind htest
  · refine (filter_sublist_idle all [] wanted).mem ?_
    exact List.mem_filter.2 ⟨hw, decide_eq_true hunknown⟩

/-- A folder with one category, in which there is one fixture. -/
def basicEntries : List (Text × Entry) := [
  ("basic".toList, .folder [
    ("a.test.md".toList,
      .file (some "---\n\n---\n# T\n\n## Feature\n\n### Background\n\nGiven x\n".toList))])]

/-- The folder in a tree. -/
def basicTree : Entry := .folder [("suite".toList, .folder basicEntries)]

theorem discover_basicEntries :
    discover (.folder basicEntries) = [⟨"basic".toList, ["basic".toList, "a.test.md".toList]⟩] :=
  List.mergeSort_of_pairwise (List.pairwise_singleton _ _)

/-- A request for the category, written with slashes, and one for nothing: only the second is told
about. -/
theorem warnings_truthful_iff_none :
    let args := ["test".toList, "suite".toList, "-c".toList, "/basic/".toList, "-c".toList,
      "none".toList]
    let r : TestRequest := ⟨"suite".toList, ["/basic/".toList, "none".toList], false⟩
    parseArguments args = .ok ⟨none, .test r⟩ ∧
    Settings.load basicTree.find none = .ok {} ∧
    basicTree.find r.path = .ok (.folder basicEntries) ∧
    (Command.run basicTree none args).1.stderr
      = "warning: category 'none' not found (available: basic)\n".toList
        ++ "  PASS  a.test\n\ntest result: ok. 1 passed, 0 failed\n".toList := by
  intro args r
  have hparse : parseArguments args = .ok ⟨none, .test r⟩ := by decide +kernel
  have hload : Settings.load basicTree.find none = .ok {} := by decide +kernel
  have hfind : basicTree.find r.path = .ok (.folder basicEntries) := rfl
  have htrials : (run basicTree.find ({} : Settings).options r.path r.categories).trials
      = [⟨"suite/basic/a.test.md".toList, none, none⟩] := by
    simp only [run, hfind, discover_basicEntries]
    decide +kernel
  obtain ⟨hstderr, -, -⟩ := warnings_truthful_iff hparse hload hfind rfl none
  rw [discover_basicEntries, htrials] at hstderr
  refine ⟨hparse, hload, hfind, hstderr.trans ?_⟩
  decide +kernel

/-- The category is there, and a second request for it is answered by the warning that it is not. -/
theorem repeatedRequest_not_found :
    let args := ["test".toList, "suite".toList, "-c".toList, "basic".toList, "-c".toList,
      "basic".toList]
    Known (categories (discover (.folder basicEntries))) "basic".toList ∧
    (Command.run basicTree none args).1 = ⟨0, [],
      ("warning: category 'basic' not found (available: basic)\n".toList
        ++ "  PASS  a.test\n\ntest result: ok. 1 passed, 0 failed\n".toList)⟩ := by
  intro args
  have hparse : parseArguments args
      = .ok ⟨none, .test ⟨"suite".toList, ["basic".toList, "basic".toList], false⟩⟩ := by
    decide +kernel
  have hload : Settings.load basicTree.find none = .ok {} := by decide +kernel
  have hfind : basicTree.find "suite".toList = .ok (.folder basicEntries) := rfl
  have hrun : run basicTree.find {} "suite".toList ["basic".toList, "basic".toList]
      = ⟨[⟨"suite/basic/a.test.md".toList, none, none⟩],
        ["warning: category 'basic' not found (available: basic)".toList]⟩ := by
    simp only [run, hfind, discover_basicEntries]
    decide +kernel
  constructor
  · rw [discover_basicEntries]
    decide
  · rw [run_test hparse hload]
    simp only [testPlan]
    rw [hrun]
    decide +kernel

end Scenarist.Fixture
