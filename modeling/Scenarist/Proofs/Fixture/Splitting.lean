/-
  Splitting fixtures — front matter and page are read back from the text that holds them.

  1. **The text** — a fixture is written as a line of dashes, the lines of the front matter, another
     line of dashes and the page (`fixtureText`).  Lines end in line feeds, or all of them in carriage
     returns and line feeds, and a byte order mark may stand in front.

  2. **The closing dashes** — they are looked for behind a line feed.  No line of front matter starts
     with dashes, so the first ones found are those that close it, whatever the page holds
     (`cut?_body`).  What is left of the last line ending, a carriage return, is taken off
     (`dropReturns_body`).

  3. **No front matter** — the line feed before the closing dashes is then the one after the opening
     dashes, and that one is gone when the search begins.  So the closing dashes are missed: only a
     line of the page that starts with dashes is found, and what comes before it is taken for front
     matter (`split_empty_iff`).
-/
import Mathlib.Data.List.TakeWhile
import Scenarist.Fixture.FrontMatter
import Scenarist.Proofs.Text.Search

namespace Scenarist.Fixture

/-! ## Written fixtures -/

/-- How lines end. -/
inductive LineEnd where
  /-- With a line feed. -/
  | feed
  /-- With a carriage return and a line feed. -/
  | returnFeed
  deriving DecidableEq, Repr

/-- What the end of a line has before the line feed. -/
def LineEnd.before : LineEnd → Text
  | .feed => []
  | .returnFeed => ['\r']

/-- The end of a line. -/
def LineEnd.text (ending : LineEnd) : Text := ending.before ++ ['\n']

/-- Three dashes. -/
def dashes : Text := "---".toList

/-- The text of a fixture. -/
def fixtureText (marked : Bool) (ending : LineEnd) (ls : List Text) (page : Text) : Text :=
  (if marked then ['\uFEFF'] else [])
    ++ (dashes ++ ending.text ++ ls.flatMap (fun l => l ++ ending.text) ++ dashes ++ ending.text ++ page)

/-- A line that may stand in front matter. -/
structure FrontLine (l : Text) : Prop where
  /-- It is one line. -/
  feed : '\n' ∉ l
  /-- It does not start like the line that ends the front matter. -/
  start : ¬ dashes <+: l
  /-- No carriage return is taken for a part of its end. -/
  last : l.getLast? ≠ some '\r'

/-- The lines of front matter. -/
def frontLines (front : Text) : List Text := (Text.lines front).map dropReturns

variable {ls : List Text} {l t : Text}

/-! ## Carriage returns -/

theorem dropReturns_eq_self (h : t.getLast? ≠ some '\r') : dropReturns t = t := by
  have hhead : ∀ c, t.reverse.head? = some c → (c == '\r') = false := by
    intro c hc
    rw [List.head?_reverse] at hc
    exact beq_eq_false_iff_ne.2 fun heq => h (heq ▸ hc)
  rw [dropReturns, Text.dropWhile_eq_self hhead, List.reverse_reverse]

/-- Taking carriage returns off stops at another character. -/
theorem dropReturns_append (h : t.getLast? ≠ some '\r') (u : Text) :
    dropReturns (t ++ u) = t ++ dropReturns u := by
  have ht := dropReturns_eq_self h
  rw [dropReturns, List.reverse_append, List.dropWhile_append]
  split
  · next hall =>
    have hu : dropReturns u = [] := by
      rw [dropReturns, List.isEmpty_iff.1 hall, List.reverse_nil]
    rw [hu, List.append_nil]
    exact ht
  · rw [List.reverse_append, List.reverse_reverse]
    rfl

/-- What a line ending has before the line feed is taken off. -/
theorem dropReturns_before (h : t.getLast? ≠ some '\r') (ending : LineEnd) :
    dropReturns (t ++ ending.before) = t := by
  have hbefore : dropReturns ending.before = [] := by cases ending <;> rfl
  rw [dropReturns_append h, hbefore, List.append_nil]

/-! ## The body -/

theorem skipLineEnd_text (ending : LineEnd) (t : Text) : skipLineEnd (ending.text ++ t) = t := by
  cases ending <;> rfl

/-- Lines that are ended are lines that are joined, and one more line feed. -/
theorem flatMap_text (hne : ls ≠ []) (ending : LineEnd) :
    ls.flatMap (fun l => l ++ ending.text)
      = Text.unlines (ls.map fun l => l ++ ending.before) ++ ['\n'] := by
  induction ls with
  | nil => exact absurd rfl hne
  | cons l ls ih =>
    cases ls with
    | nil => simp [LineEnd.text, Text.unlines]
    | cons k ls =>
      have ih := ih (List.cons_ne_nil k ls)
      rw [List.map_cons] at ih
      rw [List.flatMap_cons, ih, List.map_cons, List.map_cons, Text.unlines_cons_cons, LineEnd.text]
      simp

/-- The joined lines have all of their endings but for the last line feed. -/
theorem unlines_before (hne : ls ≠ []) (ending : LineEnd) :
    Text.unlines (ls.map fun l => l ++ ending.before)
      = List.intercalate ending.text ls ++ ending.before := by
  induction ls with
  | nil => exact absurd rfl hne
  | cons l ls ih =>
    cases ls with
    | nil => simp [Text.unlines]
    | cons k ls =>
      have ih := ih (List.cons_ne_nil k ls)
      rw [List.map_cons] at ih
      rw [List.map_cons, List.map_cons, Text.unlines_cons_cons, ih, List.intercalate_cons_cons,
        LineEnd.text]
      simp

theorem getLast?_intercalate (hls : ∀ l ∈ ls, FrontLine l) (ending : LineEnd) :
    (List.intercalate ending.text ls).getLast? ≠ some '\r' := by
  induction ls with
  | nil => exact nofun
  | cons l ls ih =>
    obtain ⟨hl, hls⟩ := List.forall_mem_cons.1 hls
    cases ls with
    | nil =>
      rw [List.intercalate_singleton]
      exact hl.last
    | cons k ls =>
      rw [List.intercalate_cons_cons, List.getLast?_append]
      cases hrest : (List.intercalate ending.text (k :: ls)).getLast? with
      | none =>
        -- nothing comes after the line feed
        rw [LineEnd.text, ← List.append_assoc, List.getLast?_concat]
        decide
      | some c =>
        have := ih hls
        rw [hrest] at this
        exact this

/-- The front matter is what is left of the lines without the carriage return at their end. -/
theorem dropReturns_body (hne : ls ≠ []) (hls : ∀ l ∈ ls, FrontLine l) (ending : LineEnd) :
    dropReturns (Text.unlines (ls.map fun l => l ++ ending.before))
      = List.intercalate ending.text ls := by
  rw [unlines_before hne, dropReturns_before (getLast?_intercalate hls ending)]

/-- A line is one line with what its ending has before the line feed, too. -/
theorem feed_not_mem_append_before (hl : '\n' ∉ l) (ending : LineEnd) : '\n' ∉ l ++ ending.before := by
  cases ending with
  | feed => rwa [LineEnd.before, List.append_nil]
  | returnFeed => simpa [LineEnd.before] using hl

/-- A line starts with dashes just when it does so with its ending. -/
theorem dashes_before_iff (ending : LineEnd) (l : Text) :
    dashes <+: l ++ ending.before ↔ dashes <+: l := by
  cases ending with
  | feed => rw [LineEnd.before, List.append_nil]
  | returnFeed => exact Text.prefix_append_cons_iff (by decide) l []

/-- The dashes that are found are those that close the front matter. -/
theorem cut?_body (hne : ls ≠ []) (hls : ∀ l ∈ ls, FrontLine l) (ending : LineEnd) (t : Text) :
    Text.cut? ('\n' :: dashes) (ls.flatMap (fun l => l ++ ending.text) ++ dashes ++ t)
      = some (Text.unlines (ls.map fun l => l ++ ending.before), t) := by
  have hlines : ∀ l ∈ ls.map fun l => l ++ ending.before, '\n' ∉ l := by
    intro l hl
    obtain ⟨k, hk, rfl⟩ := List.mem_map.1 hl
    exact feed_not_mem_append_before (hls k hk).feed ending
  have hstarts : ∀ l ∈ (ls.map fun l => l ++ ending.before).tail, ¬ dashes <+: l := by
    intro l hl
    obtain ⟨k, hk, rfl⟩ := List.mem_map.1 (List.mem_of_mem_tail hl)
    rw [dashes_before_iff]
    exact (hls k hk).start
  have hmap : ls.map (fun l => l ++ ending.before) ≠ [] := by simpa using hne
  rw [← Text.cut?_unlines (by decide) hmap hlines hstarts t, flatMap_text hne]
  simp

/-! ## Splitting -/

/-- What comes of a written fixture after its opening line. -/
theorem split_fixtureText (marked : Bool) (ending : LineEnd) (ls : List Text) (page : Text) :
    split (fixtureText marked ending ls page)
      = match Text.cut? ('\n' :: dashes)
            (ls.flatMap (fun l => l ++ ending.text) ++ dashes ++ (ending.text ++ page)) with
        | none => .error .noClosing
        | some (front, rest) => .ok (dropReturns front, skipLineEnd rest) := by
  have hmark : (fixtureText marked ending ls page).dropWhile (· == '\uFEFF')
      = dashes ++ (ending.text
        ++ (ls.flatMap (fun l => l ++ ending.text) ++ dashes ++ (ending.text ++ page))) := by
    cases marked <;> simp [fixtureText, dashes]
  have hopen := Text.after?_append dashes (ending.text
    ++ (ls.flatMap (fun l => l ++ ending.text) ++ dashes ++ (ending.text ++ page)))
  rw [split, hmark, ← dashes, hopen]
  dsimp only
  rw [skipLineEnd_text]
  rfl

/-- The lines of front matter are read back from the text that joins them. -/
theorem frontLines_intercalate (hne : ls ≠ []) (hls : ∀ l ∈ ls, FrontLine l) (ending : LineEnd) :
    frontLines (List.intercalate ending.text ls) = ls := by
  induction ls with
  | nil => exact absurd rfl hne
  | cons l ls ih =>
    obtain ⟨hl, hls⟩ := List.forall_mem_cons.1 hls
    cases ls with
    | nil =>
      rw [List.intercalate_singleton, frontLines, Text.lines_eq_singleton hl.feed]
      simp [dropReturns_eq_self hl.last]
    | cons k ls =>
      have hsplit : List.intercalate ending.text (l :: k :: ls)
          = l ++ ending.before ++ '\n' :: List.intercalate ending.text (k :: ls) := by
        rw [List.intercalate_cons_cons, LineEnd.text]
        simp
      have ih := ih (List.cons_ne_nil k ls) hls
      rw [frontLines] at ih ⊢
      rw [hsplit, Text.lines_append_feed,
        Text.lines_eq_singleton (feed_not_mem_append_before hl.feed ending), List.map_append, ih,
        List.map_singleton, dropReturns_before hl.last]
      rfl

/-! ## Fixtures without front matter -/

/-- The lines after the first of what a fixture without front matter has behind its opening line. -/
theorem tail_lines_empty (ending : LineEnd) (page : Text) :
    (Text.lines (dashes ++ (ending.text ++ page))).tail = Text.lines page := by
  have hsplit : dashes ++ (ending.text ++ page) = dashes ++ ending.before ++ '\n' :: page := by
    rw [LineEnd.text]
    simp
  have hfirst : '\n' ∉ dashes ++ ending.before := feed_not_mem_append_before (by decide) ending
  rw [hsplit, Text.lines_append_feed, Text.lines_eq_singleton hfirst]
  rfl

/-- The closing dashes of a fixture without front matter are missed, so there are none unless a line
of the page starts with dashes. -/
theorem split_empty_iff (marked : Bool) (ending : LineEnd) (page : Text) :
    split (fixtureText marked ending [] page) = .error .noClosing
      ↔ ∀ l ∈ Text.lines page, ¬ dashes <+: l := by
  rw [← tail_lines_empty ending page, ← Text.cut?_eq_none_iff_lines (by decide),
    split_fixtureText, List.flatMap_nil, List.nil_append]
  cases Text.cut? ('\n' :: dashes) (dashes ++ (ending.text ++ page)) with
  | none => exact iff_of_true rfl rfl
  | some found => exact iff_of_false nofun nofun

/-- What is then taken for front matter starts with the dashes that should close it. -/
theorem dashes_prefix_of_split_empty {marked : Bool} {ending : LineEnd} {page front rest : Text}
    (h : split (fixtureText marked ending [] page) = .ok (front, rest)) : dashes <+: front := by
  rw [split_fixtureText, List.flatMap_nil, List.nil_append, Text.cut?_line (by decide)] at h
  cases hcut : Text.cut? ('\n' :: dashes) (ending.text ++ page) with
  | none =>
    rw [hcut] at h
    exact nomatch h
  | some found =>
    rw [hcut] at h
    obtain rfl : dropReturns (dashes ++ found.1) = front := congrArg Prod.fst (Except.ok.inj h)
    rw [dropReturns_append (by decide)]
    exact List.prefix_append _ _

/-! ## Reading back -/

/-- **Front matter is read back.**  Let a fixture be written with lines of front matter that do not
look like its end.  It is split into just these lines and the page exactly when there is such a line.
A fixture without front matter has no closing dashes, unless the page has a line that starts with
dashes; then what stands before it, the closing dashes first, is taken for front matter. -/
theorem front_matter_read_back (hls : ∀ l ∈ ls, FrontLine l) (marked : Bool) (ending : LineEnd)
    (page : Text) :
    let file := fixtureText marked ending ls page
    let front := List.intercalate ending.text ls
    (split file = .ok (front, page) ↔ ls ≠ []) ∧
    (ls ≠ [] → frontLines front = ls) ∧
    (ls = [] →
      (split file = .error .noClosing ↔ ∀ l ∈ Text.lines page, ¬ dashes <+: l) ∧
      ∀ taken rest, split file = .ok (taken, rest) → dashes <+: taken) := by
  intro file front
  refine ⟨⟨?_, fun hne => ?_⟩, fun hne => frontLines_intercalate hne hls ending, ?_⟩
  · rintro hsplit rfl
    have hdashes : dashes <+: ([] : Text) := dashes_prefix_of_split_empty hsplit
    exact absurd hdashes (by decide)
  · show split (fixtureText marked ending ls page) = _
    rw [split_fixtureText, cut?_body hne hls]
    dsimp only
    rw [dropReturns_body hne hls, skipLineEnd_text]
  · rintro rfl
    exact ⟨split_empty_iff marked ending page, fun taken rest => dashes_prefix_of_split_empty⟩

instance (l : Text) : Decidable (FrontLine l) :=
  decidable_of_iff ('\n' ∉ l ∧ ¬ dashes <+: l ∧ l.getLast? ≠ some '\r')
    ⟨fun ⟨hfeed, hstart, hlast⟩ => ⟨hfeed, hstart, hlast⟩,
      fun ⟨hfeed, hstart, hlast⟩ => ⟨hfeed, hstart, hlast⟩⟩

/-- The page starts with a blank line and a rule, and the front matter ends in an empty line. -/
theorem front_matter_read_back_ruledPage :
    let ls := ["align = false".toList, "# -- no title --".toList, []]
    let page := "\n---\n\n# T\r\n---".toList
    (∀ l ∈ ls, FrontLine l) ∧
    split (fixtureText true .returnFeed ls page)
      = .ok ("align = false\r\n# -- no title --\r\n".toList, page) ∧
    frontLines "align = false\r\n# -- no title --\r\n".toList = ls := by
  intro ls page
  have hls : ∀ l ∈ ls, FrontLine l := by decide +kernel
  obtain ⟨hsplit, hlines, -⟩ := front_matter_read_back hls true .returnFeed page
  exact ⟨hls, hsplit.2 (List.cons_ne_nil _ _), hlines (List.cons_ne_nil _ _)⟩

/-- A fixture that expects nothing in particular has to hold an empty line of front matter. -/
theorem emptyFront_not_closed :
    (∀ l ∈ ([] : List Text), FrontLine l) ∧
    fixtureText false .feed [] "# T".toList = "---\n---\n# T".toList ∧
    split "---\n---\n# T".toList = .error .noClosing ∧
    split "---\n---\n# T".toList ≠ .ok ([], "# T".toList) ∧
    split "---\n\n---\n# T".toList = .ok ([], "# T".toList) := by
  have hsplit : split "---\n---\n# T".toList = .error .noClosing := rfl
  refine ⟨by decide, by decide, hsplit, ?_, rfl⟩
  rw [hsplit]
  exact nofun

end Scenarist.Fixture
