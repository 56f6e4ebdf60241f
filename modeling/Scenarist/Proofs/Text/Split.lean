/-
  Splitting — pieces that are joined are cut into the same pieces again.

  1. A text is cut at each character of a class, and its pieces hold none of them.

  2. Pieces without such a character, joined with it, are read back from the joined text.  Lines and
     the cells of a row are both read back that way.

  3. A stretch of a class is taken whole, and dropped whole, where something else comes after it.
-/
import Scenarist.Text.Basic

namespace Scenarist.Text

variable {cuts : Char → Bool} {c : Char} {t piece : Text} {pieces : List Text}

/-! ## Cutting -/

/-- A text is cut at each of its cuts. -/
theorem splitWhere_append_cons (hc : cuts c = true) (s t : Text) :
    splitWhere cuts (s ++ c :: t) = splitWhere cuts s ++ splitWhere cuts t := by
  induction s with
  | nil => simp [splitWhere, hc]
  | cons d s ih =>
    rw [List.cons_append]
    cases hd : cuts d with
    | true => simp [splitWhere, hd, ih]
    | false =>
      cases hs : splitWhere cuts s with
      | nil => exact absurd hs (splitWhere_ne_nil cuts s)
      | cons piece pieces => simp [splitWhere, hd, ih, hs]

theorem splitWhere_eq_singleton (h : ∀ c ∈ t, cuts c = false) : splitWhere cuts t = [t] := by
  induction t with
  | nil => rfl
  | cons c t ih =>
    have hrest := ih fun d hd => h d (List.mem_cons_of_mem c hd)
    simp [splitWhere, h c (List.mem_cons_self ..), hrest]

/-- The pieces of a text hold characters of the text, and none that it is cut at. -/
theorem of_mem_splitWhere (hp : piece ∈ splitWhere cuts t) (hc : c ∈ piece) :
    c ∈ t ∧ cuts c = false := by
  induction t generalizing piece with
  | nil =>
    obtain rfl : piece = [] := by simpa [splitWhere] using hp
    cases hc
  | cons d t ih =>
    have hstep : ∀ q ∈ splitWhere cuts t, c ∈ q → c ∈ d :: t ∧ cuts c = false := by
      intro q hq hcq
      obtain ⟨hmem, hcut⟩ := ih hq hcq
      exact ⟨List.mem_cons_of_mem d hmem, hcut⟩
    cases hd : cuts d with
    | true =>
      simp only [splitWhere, hd, if_true, List.mem_cons] at hp
      rcases hp with rfl | hp
      · cases hc
      · exact hstep piece hp hc
    | false =>
      cases hs : splitWhere cuts t with
      | nil => exact absurd hs (splitWhere_ne_nil cuts t)
      | cons q qs =>
        simp only [splitWhere, hd, hs, Bool.false_eq_true, if_false, List.mem_cons] at hp
        rcases hp with rfl | hp
        · rcases List.mem_cons.1 hc with rfl | hc
          · exact ⟨List.mem_cons_self .., hd⟩
          · exact hstep q (by rw [hs]; exact List.mem_cons_self ..) hc
        · exact hstep piece (by rw [hs]; exact List.mem_cons_of_mem q hp) hc

/-! ## Joining -/

/-- Pieces that hold no cut are read back from the text that joins them. -/
theorem splitWhere_intercalate (hc : cuts c = true) (hne : pieces ≠ [])
    (h : ∀ p ∈ pieces, ∀ d ∈ p, cuts d = false) :
    splitWhere cuts (List.intercalate [c] pieces) = pieces := by
  induction pieces with
  | nil => exact absurd rfl hne
  | cons p ps ih =>
    have hp : splitWhere cuts p = [p] := splitWhere_eq_singleton (h p (List.mem_cons_self ..))
    cases ps with
    | nil => simpa using hp
    | cons q qs =>
      have hrest : splitWhere cuts (List.intercalate [c] (q :: qs)) = q :: qs :=
        ih (List.cons_ne_nil q qs) fun r hr => h r (List.mem_cons_of_mem p hr)
      have hjoined : List.intercalate [c] (p :: q :: qs)
          = p ++ c :: List.intercalate [c] (q :: qs) := by simp
      rw [hjoined, splitWhere_append_cons hc, hp, hrest]
      rfl

theorem of_mem_intercalate {sep : Text} (hc : c ∈ List.intercalate sep pieces) :
    c ∈ sep ∨ ∃ p ∈ pieces, c ∈ p := by
  induction pieces with
  | nil => exact absurd hc List.not_mem_nil
  | cons p ps ih =>
    cases ps with
    | nil =>
      rw [List.intercalate_singleton] at hc
      exact .inr ⟨p, List.mem_cons_self .., hc⟩
    | cons q qs =>
      rw [List.intercalate_cons_cons, List.append_assoc] at hc
      rcases List.mem_append.1 hc with hp | hc
      · exact .inr ⟨p, List.mem_cons_self .., hp⟩
      · rcases List.mem_append.1 hc with hsep | hc
        · exact .inl hsep
        · rcases ih hc with hsep | ⟨r, hr, hc⟩
          · exact .inl hsep
          · exact .inr ⟨r, List.mem_cons_of_mem p hr, hc⟩

theorem mem_intercalate {sep : Text} (hp : piece ∈ pieces) (hc : c ∈ piece) :
    c ∈ List.intercalate sep pieces := by
  induction pieces with
  | nil => cases hp
  | cons p ps ih =>
    cases ps with
    | nil =>
      rw [List.intercalate_singleton]
      obtain rfl := List.mem_singleton.1 hp
      exact hc
    | cons q qs =>
      rw [List.intercalate_cons_cons, List.append_assoc]
      rcases List.mem_cons.1 hp with rfl | hp
      · exact List.mem_append_left _ hc
      · exact List.mem_append_right _ (List.mem_append_right _ (ih hp))

/-- Pieces in front are joined by themselves. -/
theorem intercalate_append {sep : Text} {more : List Text} (hpieces : pieces ≠ [])
    (hmore : more ≠ []) :
    List.intercalate sep (pieces ++ more)
      = List.intercalate sep pieces ++ sep ++ List.intercalate sep more := by
  induction pieces with
  | nil => exact absurd rfl hpieces
  | cons p ps ih =>
    cases ps with
    | nil =>
      obtain ⟨q, qs, rfl⟩ := List.exists_cons_of_ne_nil hmore
      simp
    | cons q qs =>
      have hrest := ih (List.cons_ne_nil q qs)
      rw [List.cons_append] at hrest
      rw [List.cons_append, List.cons_append, List.intercalate_cons_cons, hrest,
        List.intercalate_cons_cons]
      simp only [List.append_assoc]

/-- A text that is cut at every `c` is joined again by `c`. -/
theorem intercalate_splitWhere (c : Char) (t : Text) :
    List.intercalate [c] (splitWhere (· == c) t) = t := by
  induction t with
  | nil => rfl
  | cons d t ih =>
    obtain ⟨piece, pieces, hs⟩ := List.exists_cons_of_ne_nil (splitWhere_ne_nil (· == c) t)
    rw [hs] at ih
    rw [splitWhere, hs]
    by_cases hd : d = c
    · subst hd
      rw [if_pos (beq_self_eq_true _), List.intercalate_cons_cons, ih]
      rfl
    · rw [if_neg (by simpa using hd)]
      cases pieces with
      | nil => simpa using ih
      | cons q qs =>
        rw [List.intercalate_cons_cons] at ih ⊢
        rw [List.cons_append, List.cons_append, ih]

/-- Joined pieces start and end as pieces do, with a character of a piece. -/
theorem ends_intercalate {P : Char → Prop} (sep : Text) (hne : pieces ≠ [])
    (h : ∀ p ∈ pieces, p ≠ [] ∧ ∀ c ∈ p, P c) :
    (∀ c ∈ (List.intercalate sep pieces).head?, P c) ∧
      ∀ c ∈ (List.intercalate sep pieces).getLast?, P c := by
  induction pieces with
  | nil => exact absurd rfl hne
  | cons p ps ih =>
    obtain ⟨hp, hchars⟩ := h p (List.mem_cons_self ..)
    cases ps with
    | nil =>
      rw [List.intercalate_singleton]
      exact ⟨fun c hc => hchars c (List.mem_of_mem_head? hc),
        fun c hc => hchars c (List.mem_of_getLast? hc)⟩
    | cons q qs =>
      obtain ⟨-, hlast⟩ := ih (List.cons_ne_nil q qs) fun r hr => h r (List.mem_cons_of_mem p hr)
      have hrest : List.intercalate sep (q :: qs) ≠ [] := by
        intro hnil
        obtain ⟨hq, -⟩ := h q (by simp)
        cases qs <;> simp_all
      rw [List.intercalate_cons_cons]
      constructor
      · intro c hc
        obtain ⟨a, as, rfl⟩ := List.exists_cons_of_ne_nil hp
        obtain rfl : a = c := by simpa using hc
        exact hchars a (List.mem_cons_self ..)
      · intro c hc
        obtain ⟨d, hd⟩ := Option.ne_none_iff_exists'.1 (mt List.getLast?_eq_none_iff.1 hrest)
        rw [List.getLast?_append, hd] at hc
        obtain rfl : d = c := by simpa using hc
        exact hlast d hd

/-! ## Stretches -/

section Stretches

variable {α : Type} {p : α → Bool} {xs rest : List α}

theorem takeWhile_stretch (hxs : ∀ x ∈ xs, p x = true) (hrest : ∀ x ∈ rest.head?, p x = false) :
    (xs ++ rest).takeWhile p = xs := by
  rw [List.takeWhile_append_of_pos hxs]
  cases rest with
  | nil => simp
  | cons y rest => simp [hrest y rfl]

theorem dropWhile_stretch (hxs : ∀ x ∈ xs, p x = true) (hrest : ∀ x ∈ rest.head?, p x = false) :
    (xs ++ rest).dropWhile p = rest := by
  rw [List.dropWhile_append_of_pos hxs]
  cases rest with
  | nil => rfl
  | cons y rest => simp [hrest y rfl]

end Stretches

/-! ## Lines -/

theorem unlines_singleton (t : Text) : unlines [t] = t := List.intercalate_singleton ..

theorem unlines_cons_cons (a b : Text) (ls : List Text) :
    unlines (a :: b :: ls) = a ++ '\n' :: unlines (b :: ls) := by
  simp [unlines, List.intercalate]

theorem unlines_append {ls more : List Text} (hls : ls ≠ []) (hmore : more ≠ []) :
    unlines (ls ++ more) = unlines ls ++ '\n' :: unlines more := by
  rw [unlines, intercalate_append hls hmore, List.append_assoc]
  rfl

/-- Lines without line feeds are read back from the text that joins them. -/
theorem lines_unlines {ls : List Text} (hne : ls ≠ []) (h : ∀ l ∈ ls, '\n' ∉ l) :
    lines (unlines ls) = ls := by
  refine splitWhere_intercalate rfl hne fun l hl d hd => ?_
  have hdn : d ≠ '\n' := by rintro rfl; exact h l hl hd
  simpa using hdn

/-- The lines of a text, joined again, are the text. -/
theorem unlines_lines (t : Text) : unlines (lines t) = t := intercalate_splitWhere '\n' t

theorem not_mem_of_mem_lines {l : Text} (h : l ∈ lines t) : '\n' ∉ l := by
  intro hc
  have := (of_mem_splitWhere h hc).2
  simp at this

theorem lines_ne_nil (t : Text) : lines t ≠ [] := splitWhere_ne_nil _ t

theorem lines_append_feed (s t : Text) : lines (s ++ '\n' :: t) = lines s ++ lines t :=
  splitWhere_append_cons rfl s t

/-- The lines of joined texts are the lines of each. -/
theorem lines_unlines_flatMap {ts : List Text} (hne : ts ≠ []) :
    lines (unlines ts) = ts.flatMap lines := by
  induction ts with
  | nil => exact absurd rfl hne
  | cons t ts ih =>
    cases ts with
    | nil => simp [unlines, List.intercalate]
    | cons u us =>
      rw [unlines_cons_cons, lines_append_feed, ih (List.cons_ne_nil u us)]
      rfl

theorem lines_eq_singleton (h : '\n' ∉ t) : lines t = [t] := by
  refine splitWhere_eq_singleton fun c hc => ?_
  have hcn : c ≠ '\n' := by rintro rfl; exact h hc
  simpa using hcn

/-- A text is one line exactly when it has no line feed. -/
theorem length_lines_eq_one_iff : (lines t).length = 1 ↔ '\n' ∉ t := by
  constructor
  · intro hlen hfeed
    obtain ⟨before, after, rfl⟩ := List.append_of_mem hfeed
    have hbefore := List.length_pos_iff.2 (lines_ne_nil before)
    have hafter := List.length_pos_iff.2 (lines_ne_nil after)
    rw [lines_append_feed, List.length_append] at hlen
    omega
  · intro h
    rw [lines_eq_singleton h, List.length_singleton]

end Scenarist.Text
