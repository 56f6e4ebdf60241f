/-
  Inferred headers — the header that a step gives to the bullets under it, told from the step alone.

  1. **Where the words begin.**  `BehindFollowing` says what stands behind the first `following`, in any
     case, that a blank comes after.  It may stand inside of a word, and one with anything else behind it is
     passed over.  `afterFollowing?` finds just that (`afterFollowing?_eq_some_iff`).

  2. **The words.**  `ListedWords` are the words from there on without their colons; a word of colons only
     is none.  They are determined by the step (`listedWords_iff`).

  3. **The header.**  If none of these words ends in `s`, the header is the fallback.  If one does, the words
     up to the first such word are the header, and no text that follows the step behind a blank changes it
     (`header_inferred`).
-/
import Scenarist.Proofs.Outline.Header
import Scenarist.Proofs.Text.CaseImages
import Scenarist.Proofs.Text.WordList

namespace Scenarist.Sentence

open Text (HasWords)

variable {c : Char} {t step rest : Text} {word : Text} {words before more : List Text}

/-! ## Where the words begin -/

/-- A text starts with `following`, in any case, and a blank, and goes on with `rest`. -/
def StartsFollowing (t rest : Text) : Prop :=
  ∃ mark c, t = mark ++ c :: rest ∧ Text.caseless mark = "following".toList ∧ Text.isBlank c = true

/-- What stands in a step behind the first `following`, in any case, and the blank after it. -/
def BehindFollowing (step rest : Text) : Prop :=
  ∃ front t, step = front ++ t ∧ StartsFollowing t rest ∧
    ∀ front' t' rest', step = front' ++ t' → front'.length < front.length → ¬ StartsFollowing t' rest'

theorem startsFollowing_iff :
    StartsFollowing t rest ↔ (t.take 9).map Char.toLower = "following".toList ∧
      ∃ c, t.drop 9 = c :: rest ∧ Text.isBlank c = true := by
  constructor
  · rintro ⟨mark, c, rfl, hword, hc⟩
    rw [Text.caseless_eq_following_iff] at hword
    have hlen : mark.length = 9 := by
      have := congrArg List.length hword
      simpa using this
    rw [← hlen, List.take_left, List.drop_left]
    exact ⟨hword, c, rfl, hc⟩
  · rintro ⟨hword, c, hdrop, hc⟩
    exact ⟨t.take 9, c, by rw [← hdrop, List.take_append_drop],
      Text.caseless_eq_following_iff.2 hword, hc⟩

theorem startsWithWord_following_iff :
    startsWithWord "following".toList t = true ↔ (t.take 9).map Char.toLower = "following".toList :=
  beq_iff_eq

theorem afterFollowing?_of_starts (h : StartsFollowing t rest) : afterFollowing? t = some rest := by
  cases t with
  | nil =>
    obtain ⟨mark, c, hnil, -⟩ := h
    exact absurd hnil.symm (List.append_ne_nil_of_right_ne_nil mark (List.cons_ne_nil c rest))
  | cons d t =>
    obtain ⟨hword, c, hdrop, hc⟩ := startsFollowing_iff.1 h
    rw [List.drop_succ_cons] at hdrop
    have hbehind : t.drop 9 = rest := by
      rw [← List.drop_drop (i := 1) (j := 8), hdrop]
      rfl
    rw [afterFollowing?, startsWithWord_following_iff.2 hword, hdrop, hbehind]
    simp [hc]

theorem afterFollowing?_cons (h : ∀ rest, ¬ StartsFollowing (c :: t) rest) :
    afterFollowing? (c :: t) = afterFollowing? t := by
  rw [afterFollowing?, if_neg]
  intro hstarts
  obtain ⟨hword, hblank⟩ := Bool.and_eq_true .. ▸ hstarts
  cases hdrop : t.drop 8 with
  | nil => simp [hdrop] at hblank
  | cons d rest =>
    rw [hdrop] at hblank
    exact h rest (startsFollowing_iff.2 ⟨startsWithWord_following_iff.1 hword, d, hdrop, hblank⟩)

/-- A letter in front that starts none leaves the first where it is. -/
theorem BehindFollowing.cons (h : BehindFollowing t rest)
    (hnot : ∀ rest', ¬ StartsFollowing (c :: t) rest') : BehindFollowing (c :: t) rest := by
  obtain ⟨front, u, rfl, hu, hfirst⟩ := h
  refine ⟨c :: front, u, rfl, hu, fun front' t' rest' hsplit hlt => ?_⟩
  cases front' with
  | nil =>
    rw [List.nil_append] at hsplit
    rw [← hsplit]
    exact hnot rest'
  | cons d front' => exact hfirst front' t' rest' (List.cons.inj hsplit).2 (Nat.lt_of_succ_lt_succ hlt)

/-- **The first `following`** is the one that is found. -/
theorem afterFollowing?_eq_some_iff : afterFollowing? step = some rest ↔ BehindFollowing step rest := by
  constructor
  · intro h
    induction step with
    | nil => cases h
    | cons c step ih =>
      by_cases hstarts : ∃ rest, StartsFollowing (c :: step) rest
      · obtain ⟨rest', hstarts⟩ := hstarts
        rw [afterFollowing?_of_starts hstarts] at h
        obtain rfl := Option.some.inj h
        exact ⟨[], c :: step, rfl, hstarts, fun _ _ _ _ hlt => absurd hlt (Nat.not_lt_zero _)⟩
      · rw [not_exists] at hstarts
        rw [afterFollowing?_cons hstarts] at h
        exact (ih h).cons hstarts
  · rintro ⟨front, t, rfl, ht, hfirst⟩
    induction front with
    | nil => exact afterFollowing?_of_starts ht
    | cons c front ih =>
      have hnot : ∀ rest', ¬ StartsFollowing (c :: (front ++ t)) rest' :=
        fun rest' => hfirst [] _ rest' rfl (Nat.zero_lt_succ _)
      rw [List.cons_append, afterFollowing?_cons hnot]
      refine ih fun front' t' rest' hsplit hlt => ?_
      exact hfirst (c :: front') t' rest' (congrArg (c :: ·) hsplit) (Nat.succ_lt_succ hlt)

theorem StartsFollowing.length_eq (h : StartsFollowing t rest) : t.length = rest.length + 10 := by
  obtain ⟨hword, c, hdrop, -⟩ := startsFollowing_iff.1 h
  have hlen := congrArg List.length hdrop
  rw [List.length_drop, List.length_cons] at hlen
  omega

/-- Ten characters tell whether a text starts with `following` and a blank. -/
theorem StartsFollowing.of_append {u : Text} (h : StartsFollowing (t ++ u) rest) (hlen : 10 ≤ t.length) :
    ∃ rest', StartsFollowing t rest' := by
  obtain ⟨hword, c, hdrop, hc⟩ := startsFollowing_iff.1 h
  rw [List.take_append_of_le_length (by omega)] at hword
  rw [List.drop_append_of_le_length (by omega)] at hdrop
  obtain ⟨d, v, hv⟩ : ∃ d v, t.drop 9 = d :: v := by
    refine List.exists_cons_of_length_pos ?_
    rw [List.length_drop]
    omega
  rw [hv] at hdrop
  obtain ⟨rfl, -⟩ := List.cons.inj hdrop
  exact ⟨v, startsFollowing_iff.2 ⟨hword, d, hv, hc⟩⟩

/-- What is put behind a step comes out behind what was found there before. -/
theorem afterFollowing?_append (h : afterFollowing? step = some rest) (more : Text) :
    afterFollowing? (step ++ more) = some (rest ++ more) := by
  induction step with
  | nil => cases h
  | cons c step ih =>
    by_cases hstarts : ∃ rest, StartsFollowing (c :: step) rest
    · obtain ⟨rest', mark, d, hsplit, hword, hd⟩ := hstarts
      rw [afterFollowing?_of_starts ⟨mark, d, hsplit, hword, hd⟩] at h
      obtain rfl := Option.some.inj h
      refine afterFollowing?_of_starts ⟨mark, d, ?_, hword, hd⟩
      rw [hsplit, List.append_assoc, List.cons_append]
    · rw [not_exists] at hstarts
      rw [afterFollowing?_cons hstarts] at h
      -- the first one ends within the step, so one that starts earlier would end there as well
      have hlen : 10 ≤ (c :: step).length := by
        obtain ⟨front, t, rfl, ht, -⟩ := afterFollowing?_eq_some_iff.1 h
        have := ht.length_eq
        rw [List.length_cons, List.length_append]
        omega
      have hnot : ∀ rest', ¬ StartsFollowing (c :: (step ++ more)) rest' := by
        intro rest' hrest'
        obtain ⟨r, hr⟩ := StartsFollowing.of_append (t := c :: step) hrest' hlen
        exact hstarts r hr
      rw [List.cons_append, afterFollowing?_cons hnot, ih h]

/-! ## The words -/

/-- The words that a step lists: those behind `following`, without their colons; a word of colons only is
none. -/
def ListedWords (step : Text) (words : List Text) : Prop :=
  ∃ rest ws, BehindFollowing step rest ∧ HasWords rest ws ∧
    words = (ws.map fun word => word.filter (· != ':')).filter (· ≠ [])

theorem listedWords_iff : ListedWords step words ↔ (afterFollowing? step).map plainWords = some words := by
  have hplain : ∀ t,
      plainWords t = ((Text.words t).map fun word => word.filter (· != ':')).filter (· ≠ []) := by
    intro t
    refine List.filter_congr fun word _ => ?_
    cases word <;> rfl
  rw [Option.map_eq_some_iff]
  constructor
  · rintro ⟨rest, ws, hrest, hws, rfl⟩
    exact ⟨rest, afterFollowing?_eq_some_iff.2 hrest, by rw [hplain, hws.words_eq]⟩
  · rintro ⟨rest, hrest, rfl⟩
    exact ⟨rest, _, afterFollowing?_eq_some_iff.1 hrest, Text.hasWords_iff.2 rfl, hplain rest⟩

/-- Every word that a step lists is a word, and has no colon. -/
theorem ListedWords.of_mem (h : ListedWords step words) (hword : word ∈ words) :
    IsWord word ∧ ':' ∉ word := by
  obtain ⟨rest, -, rfl⟩ := Option.map_eq_some_iff.1 (listedWords_iff.1 h)
  refine ⟨isWord_of_mem_plainWords hword, fun hcolon => ?_⟩
  obtain ⟨u, -, rfl⟩ := List.mem_map.1 (List.mem_filter.1 hword).1
  simpa using (List.mem_filter.1 hcolon).2

/-- A step that goes on behind a blank lists more words, behind those it listed before. -/
theorem ListedWords.exists_append (h : ListedWords step words) (hc : Text.isBlank c = true) (t : Text) :
    ∃ more, ListedWords (step ++ c :: t) (words ++ more) := by
  obtain ⟨rest, hrest, rfl⟩ := Option.map_eq_some_iff.1 (listedWords_iff.1 h)
  refine ⟨plainWords t, listedWords_iff.2 ?_⟩
  have hwords : plainWords (rest ++ c :: t) = plainWords rest ++ plainWords t := by
    rw [plainWords, Text.words_append_cons hc, List.map_append, List.filter_append]
    rfl
  rw [afterFollowing?_append hrest, Option.map_some, hwords]

/-! ## The header -/

/-- A text ends in `s`, in either case. -/
def EndsInS (t : Text) : Prop := t.getLast? = some 's' ∨ t.getLast? = some 'S'

instance (t : Text) : Decidable (EndsInS t) :=
  inferInstanceAs (Decidable (t.getLast? = some 's' ∨ t.getLast? = some 'S'))

theorem isPlural_iff : isPlural word = true ↔ EndsInS word := by
  simp [isPlural, EndsInS]

/-- No other letter has `s` for its lower case, so a word is plural if its lower case ends in `s`. -/
theorem isPlural_iff_lower : isPlural word = true ↔ (Text.lower word).getLast? = some 's' :=
  isPlural_iff.trans (Text.getLast?_lower_eq_s_iff word).symm

theorem throughPlural?_eq_none (h : ∀ word ∈ words, ¬ EndsInS word) : throughPlural? words = none := by
  induction words with
  | nil => rfl
  | cons word words ih =>
    obtain ⟨hword, hwords⟩ := List.forall_mem_cons.1 h
    rw [throughPlural?, if_neg (mt isPlural_iff.1 hword), ih hwords]
    rfl

theorem throughPlural?_split (hbefore : ∀ word ∈ before, ¬ EndsInS word) (hword : EndsInS word)
    (more : List Text) : throughPlural? (before ++ word :: more) = some (before ++ [word]) := by
  induction before with
  | nil => rw [List.nil_append, throughPlural?, if_pos (isPlural_iff.2 hword), List.nil_append]
  | cons first before ih =>
    obtain ⟨hfirst, hbefore⟩ := List.forall_mem_cons.1 hbefore
    rw [List.cons_append, throughPlural?, if_neg (mt isPlural_iff.1 hfirst), ih hbefore]
    rfl

/-- The form of a header that a step gives. -/
structure IsHeader (t : Text) : Prop where
  /-- There is something of it. -/
  ne_nil : t ≠ []
  /-- It has no colon. -/
  colon : ':' ∉ t
  /-- Its blanks are spaces, so it has no line breaks. -/
  blanks : ∀ c ∈ t, Text.isBlank c = true → c = ' '
  /-- It ends in `s`. -/
  ends : EndsInS t

/-- The first letter in upper case leaves a header a header, even if it becomes more letters. -/
theorem IsHeader.capitalize (h : IsHeader t) (hhead : ∀ c ∈ t.head?, Text.isBlank c = false) :
    IsHeader (Text.capitalize t) := by
  cases t with
  | nil => exact absurd rfl h.ne_nil
  | cons c t =>
    have hc : Text.isBlank c = false := hhead c rfl
    obtain ⟨hcolon, ht⟩ : ':' ≠ c ∧ ':' ∉ t := by simpa using h.colon
    rw [Text.capitalize]
    refine ⟨List.append_ne_nil_of_left_ne_nil (Text.upperChar_ne_nil c) t, fun hmem => ?_,
      fun d hd hblank => ?_, ?_⟩
    · rcases List.mem_append.1 hmem with hmem | hmem
      · exact hcolon (Text.colon_of_mem_upperChar hmem).symm
      · exact ht hmem
    · rcases List.mem_append.1 hd with hd | hd
      · rw [Text.isBlank_of_mem_upperChar hc hd] at hblank
        cases hblank
      · exact h.blanks d (List.mem_cons_of_mem c hd) hblank
    · cases t with
      | nil =>
        -- the header is one letter, which is an `s`
        have hs : c = 's' ∨ c = 'S' := by simpa [EndsInS] using h.ends
        rcases hs with rfl | rfl
        · exact .inr rfl
        · exact .inr rfl
      | cons d t =>
        have hends := h.ends
        rw [EndsInS, List.getLast?_cons_cons] at hends
        rw [EndsInS, List.getLast?_append_of_ne_nil _ (List.cons_ne_nil d t)]
        exact hends

/-- Words up to one that ends in `s`, joined by spaces, are a header. -/
theorem isHeader_intercalate (hwords : ∀ w ∈ before ++ [word], IsWord w ∧ ':' ∉ w)
    (hword : EndsInS word) : IsHeader (List.intercalate [' '] (before ++ [word])) := by
  have hne : word ≠ [] := (hwords word (by simp)).1.1
  have hlast : ∃ front, List.intercalate [' '] (before ++ [word]) = front ++ word := by
    cases before with
    | nil => exact ⟨[], List.intercalate_singleton⟩
    | cons first before =>
      rw [Text.intercalate_append (List.cons_ne_nil first before) (List.cons_ne_nil word []),
        List.intercalate_singleton]
      exact ⟨_, rfl⟩
  obtain ⟨front, hfront⟩ := hlast
  refine ⟨?_, fun hcolon => ?_, fun c hc hblank => ?_, ?_⟩
  · rw [hfront]
    exact List.append_ne_nil_of_right_ne_nil front hne
  · rcases Text.of_mem_intercalate hcolon with hspace | ⟨w, hw, hcolon⟩
    · exact absurd hspace (by decide)
    · exact (hwords w hw).2 hcolon
  · rcases Text.of_mem_intercalate hc with hspace | ⟨w, hw, hc⟩
    · exact List.mem_singleton.1 hspace
    · rw [(hwords w hw).1.2 c hc] at hblank
      cases hblank
  · rw [EndsInS, hfront, List.getLast?_append_of_ne_nil front hne]
    exact hword

theorem headerOf_of_listed {fallback : Text} (h : ListedWords step words) :
    headerOf step fallback = (throughPlural? words).elim fallback fun found =>
      Text.capitalize (List.intercalate [' '] found) := by
  obtain ⟨rest, hrest, rfl⟩ := Option.map_eq_some_iff.1 (listedWords_iff.1 h)
  rw [headerOf, hrest, Option.bind_some]
  cases throughPlural? (plainWords rest) with
  | none => rfl
  | some found => rfl

theorem headerOf_eq_fallback {fallback : Text}
    (h : ¬ ∃ words, ListedWords step words ∧ ∃ word ∈ words, EndsInS word) :
    headerOf step fallback = fallback := by
  cases hrest : afterFollowing? step with
  | none => rw [headerOf, hrest, Option.bind_none]
  | some rest =>
    have hlisted : ListedWords step (plainWords rest) := listedWords_iff.2 (by rw [hrest, Option.map_some])
    have hnone : ∀ word ∈ plainWords rest, ¬ EndsInS word :=
      fun word hmem hword => h ⟨_, hlisted, word, hmem, hword⟩
    rw [headerOf_of_listed hlisted, throughPlural?_eq_none hnone, Option.elim_none]

theorem headerOf_eq {fallback : Text} (h : ListedWords step (before ++ word :: more))
    (hbefore : ∀ w ∈ before, ¬ EndsInS w) (hword : EndsInS word) :
    headerOf step fallback = Text.capitalize (List.intercalate [' '] (before ++ [word])) := by
  rw [headerOf_of_listed h, throughPlural?_split hbefore hword, Option.elim_some]

/-- **The header of the bullets under a step.**  If no word that the step lists ends in `s`, or it lists
none, the header is the fallback.  Otherwise it is made of the words up to the first that does: joined by
single spaces, the first letter in upper case.  Then it is not empty, has no colon and no line break, and
ends in `s`; and whatever comes behind the step after a blank, the header stays. -/
theorem header_inferred (step fallback : Text) :
    ((¬ ∃ words, ListedWords step words ∧ ∃ word ∈ words, EndsInS word) →
      headerOf step fallback = fallback) ∧
    ∀ before word more, ListedWords step (before ++ word :: more) →
      (∀ w ∈ before, ¬ EndsInS w) → EndsInS word →
      headerOf step fallback = Text.capitalize (List.intercalate [' '] (before ++ [word])) ∧
      IsHeader (headerOf step fallback) ∧
      ∀ c t, Text.isBlank c = true → headerOf (step ++ c :: t) fallback = headerOf step fallback := by
  refine ⟨headerOf_eq_fallback, fun before word more hlisted hbefore hword => ?_⟩
  have hheader : headerOf step fallback = Text.capitalize (List.intercalate [' '] (before ++ [word])) :=
    headerOf_eq hlisted hbefore hword
  have hwords : ∀ w ∈ before ++ [word], IsWord w ∧ ':' ∉ w := by
    intro w hw
    exact hlisted.of_mem ((List.prefix_append_right_inj before).2 ⟨more, rfl⟩ |>.subset hw)
  have hne : before ++ [word] ≠ [] := List.append_ne_nil_of_right_ne_nil before (List.cons_ne_nil word [])
  refine ⟨hheader, ?_, fun c t hc => ?_⟩
  · rw [hheader]
    refine (isHeader_intercalate hwords hword).capitalize ?_
    exact (Text.ends_intercalate [' '] hne fun w hw => (hwords w hw).1).1
  · obtain ⟨extra, hextra⟩ := hlisted.exists_append hc t
    rw [List.append_assoc, List.cons_append] at hextra
    rw [headerOf_eq hextra hbefore hword, hheader]

/-- A step whose first `following` has a comma behind it, and whose first letter becomes two. -/
def sharpStep : Text := "Show following, the unFollowing ß: groupS and: more".toList

/-- A step that lists nothing. -/
def colonStep : Text := "Then I see the following:".toList

theorem header_inferred_sharpStep :
    (ListedWords sharpStep (["ß".toList] ++ "groupS".toList :: ["and".toList, "more".toList]) ∧
      headerOf sharpStep "Elements".toList = "SS groupS".toList ∧
      IsHeader (headerOf sharpStep "Elements".toList) ∧
      headerOf (sharpStep ++ " things following us".toList) "Elements".toList = "SS groupS".toList) ∧
    (¬ ∃ words, ListedWords colonStep words ∧ ∃ word ∈ words, EndsInS word) ∧
      headerOf colonStep "Values".toList = "Values".toList := by
  have hlisted : ListedWords sharpStep (["ß".toList] ++ "groupS".toList :: ["and".toList, "more".toList]) :=
    listedWords_iff.2 (by decide +kernel)
  have hbefore : ∀ w ∈ ["ß".toList], ¬ EndsInS w := by decide +kernel
  have hnone : ¬ ∃ words, ListedWords colonStep words ∧ ∃ word ∈ words, EndsInS word := by
    rintro ⟨words, hwords, -⟩
    have hfound : (afterFollowing? colonStep).map plainWords = none := by decide +kernel
    rw [listedWords_iff, hfound] at hwords
    cases hwords
  obtain ⟨hheader, hform, hstays⟩ :=
    (header_inferred sharpStep "Elements".toList).2 _ _ _ hlisted hbefore (.inr (by decide))
  have hsharp : headerOf sharpStep "Elements".toList = "SS groupS".toList := hheader.trans (by decide +kernel)
  refine ⟨⟨hlisted, hsharp, hform, ?_⟩, hnone, (header_inferred colonStep _).1 hnone⟩
  exact (hstays ' ' "things following us".toList (by decide)).trans hsharp

end Scenarist.Sentence
