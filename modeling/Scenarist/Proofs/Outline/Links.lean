/-
  Links in a text — which stretches of a text `unlink` takes for links.

  1. **Pieces.**  A text falls into pieces: links and single characters.  A piece is spelled in one
     way and seen in another; of a link only the label is seen.

  2. **One link.**  `linkParts?` answers with a label and an address exactly when the text goes on
     as a link that is `Whole` (`linkParts?_eq_some_iff`).

  3. **All links.**  `found` cuts a text into pieces the way `unlink` scans it.  The pieces spell the
     text again (`spell_found`), and `unlink` keeps what is seen of them (`visible_found`).

  4. **Reading back.**  Pieces that were spelled are found again exactly when no opening bracket
     among them is a stray one, which makes a link of what comes after it (`found_spell_iff`).
-/
import Mathlib.Data.List.TakeWhile
import Scenarist.Outline.Sentence
import Scenarist.Proofs.Text.Split

namespace Scenarist.Sentence

/-! ## Pieces -/

/-- A piece of a text. -/
inductive Piece where
  /-- A character that belongs to no link. -/
  | plain (c : Char)
  /-- A link. -/
  | link (label address : Text)
  deriving DecidableEq, Repr

/-- A piece with its markup. -/
def Piece.spelled : Piece → Text
  | .plain c => [c]
  | .link label address => '[' :: label ++ "](".toList ++ address ++ [')']

/-- What is seen of a piece. -/
def Piece.seen : Piece → Text
  | .plain c => [c]
  | .link label _ => label

/-- The text of some pieces, with markup. -/
def spell (ps : List Piece) : Text := ps.flatMap Piece.spelled

/-- The text of some pieces, without markup. -/
def visible (ps : List Piece) : Text := ps.flatMap Piece.seen

variable {c : Char} {t label address : Text} {p : Piece} {ps : List Piece}

@[simp] theorem spell_nil : spell [] = [] := rfl

@[simp] theorem visible_nil : visible [] = [] := rfl

@[simp] theorem spell_cons (p : Piece) (ps : List Piece) :
    spell (p :: ps) = p.spelled ++ spell ps := rfl

@[simp] theorem visible_cons (p : Piece) (ps : List Piece) :
    visible (p :: ps) = p.seen ++ visible ps := rfl

@[simp] theorem spell_append (ps qs : List Piece) : spell (ps ++ qs) = spell ps ++ spell qs :=
  List.flatMap_append

@[simp] theorem visible_append (ps qs : List Piece) :
    visible (ps ++ qs) = visible ps ++ visible qs := List.flatMap_append

@[simp] theorem spell_plain (t : Text) : spell (t.map .plain) = t := by
  induction t with
  | nil => rfl
  | cons c t ih => rw [List.map_cons, spell_cons, ih]; rfl

@[simp] theorem visible_plain (t : Text) : visible (t.map .plain) = t := by
  induction t with
  | nil => rfl
  | cons c t ih => rw [List.map_cons, visible_cons, ih]; rfl

/-- Pieces that spell a text without a closing bracket hold no links. -/
theorem visible_eq_spell (h : ']' ∉ spell ps) : visible ps = spell ps := by
  induction ps with
  | nil => rfl
  | cons p ps ih =>
    rw [spell_cons, List.mem_append, not_or] at h
    cases p with
    | plain c => rw [visible_cons, spell_cons, ih h.2]; rfl
    | link label address => exact absurd (by simp [Piece.spelled]) h.1

/-! ## One link -/

/-- A label and an address that make a link which ends where it should. -/
structure Whole (label address : Text) : Prop where
  label_ne_nil : label ≠ []
  not_mem_label : ']' ∉ label
  address_ne_nil : address ≠ []
  not_mem_address : ')' ∉ address

theorem whole_iff :
    Whole label address ↔ label ≠ [] ∧ ']' ∉ label ∧ address ≠ [] ∧ ')' ∉ address := by
  constructor
  · rintro ⟨hlabel, hclose, haddress, hparen⟩
    exact ⟨hlabel, hclose, haddress, hparen⟩
  · rintro ⟨hlabel, hclose, haddress, hparen⟩
    exact ⟨hlabel, hclose, haddress, hparen⟩

instance (label address : Text) : Decidable (Whole label address) :=
  decidable_of_iff _ whole_iff.symm

theorem takeWhile_ne_mark (h : c ∉ t) (rest : Text) :
    (t ++ c :: rest).takeWhile (· != c) = t := by
  have hkeep : ∀ d ∈ t, (d != c) = true := by
    intro d hd
    have hdc : d ≠ c := by rintro rfl; exact h hd
    simpa using hdc
  exact Text.takeWhile_stretch hkeep (by simp)

theorem not_mem_takeWhile_ne (c : Char) (t : Text) : c ∉ t.takeWhile (· != c) := by
  intro h
  have := List.mem_takeWhile_imp h
  simp at this

/-- A text that goes on after the stretch in front of a mark goes on with the mark. -/
theorem eq_takeWhile_ne_append (h : t.length ≠ (t.takeWhile (· != c)).length) :
    ∃ rest, t = t.takeWhile (· != c) ++ c :: rest := by
  have hsplit := List.takeWhile_append_dropWhile (p := (· != c)) (l := t)
  cases hdrop : t.dropWhile (· != c) with
  | nil =>
    rw [hdrop, List.append_nil] at hsplit
    rw [hsplit] at h
    exact absurd rfl h
  | cons d rest =>
    have hd : d = c := by
      have := List.head?_dropWhile_not (· != c) t
      rw [hdrop] at this
      simpa using this
    rw [hdrop, hd] at hsplit
    exact ⟨rest, hsplit.symm⟩

/-- **One link.**  After an opening bracket there is a link exactly when one is spelled there. -/
theorem linkParts?_eq_some_iff :
    linkParts? t = some (label, address) ↔
      Whole label address ∧ ∃ rest, '[' :: t = (Piece.link label address).spelled ++ rest := by
  constructor
  · intro h
    unfold linkParts? at h
    have hlabel := not_mem_takeWhile_ne ']' t
    have happend := List.prefix_iff_eq_append.1 (List.takeWhile_prefix (· != ']') (l := t))
    generalize t.takeWhile (· != ']') = l at h hlabel happend
    simp only at h
    split at h
    · next rest hrest =>
      have haddress := not_mem_takeWhile_ne ')' rest
      split at h
      · cases h
      · next hempty =>
        split at h
        · cases h
        · next hlen =>
          obtain ⟨rest', hrest'⟩ := eq_takeWhile_ne_append (by simpa using hlen)
          obtain ⟨rfl, rfl⟩ : l = label ∧ rest.takeWhile (· != ')') = address := by simpa using h
          rw [Bool.or_eq_true, not_or, List.isEmpty_iff, List.isEmpty_iff] at hempty
          refine ⟨⟨hempty.1, hlabel, hempty.2, haddress⟩, rest', ?_⟩
          rw [← happend, hrest]
          simpa [Piece.spelled] using hrest'
    · cases h
  · rintro ⟨hwhole, rest, h⟩
    have ht : t = label ++ ']' :: '(' :: (address ++ ')' :: rest) := by
      simpa [Piece.spelled] using h
    have htake : t.takeWhile (· != ']') = label := by
      rw [ht]
      exact takeWhile_ne_mark hwhole.not_mem_label _
    have hdrop : t.drop label.length = ']' :: '(' :: (address ++ ')' :: rest) := by
      rw [ht, List.drop_left]
    have haddress : (address ++ ')' :: rest).takeWhile (· != ')') = address :=
      takeWhile_ne_mark hwhole.not_mem_address rest
    simp [linkParts?, htake, hdrop, haddress, hwhole.label_ne_nil, hwhole.address_ne_nil]

theorem drop_of_spelled {rest : Text} (h : '[' :: t = (Piece.link label address).spelled ++ rest) :
    t.drop (label.length + address.length + 3) = rest := by
  have ht : t = (label ++ "](".toList ++ address ++ [')']) ++ rest := by
    simpa [Piece.spelled] using h
  have hlen : (label ++ "](".toList ++ address ++ [')']).length
      = label.length + address.length + 3 := by
    have hmark : "](".toList.length = 2 := rfl
    rw [List.length_append, List.length_append, List.length_append, hmark, List.length_singleton]
    omega
  rw [ht, ← hlen, List.drop_left]

/-! ## All links -/

/-- The pieces of a text, cut as `unlink` scans it. -/
def found : Text → List Piece
  | [] => []
  | c :: t =>
      if c = '[' then
        match linkParts? t with
        | some (label, address) =>
            .link label address :: found (t.drop (label.length + address.length + 3))
        | none => .plain c :: found t
      else .plain c :: found t
termination_by t => t.length
decreasing_by all_goals (simp only [List.length_drop, List.length_cons]; omega)

theorem found_plain (h : c = '[' → linkParts? t = none) :
    found (c :: t) = .plain c :: found t := by
  rw [found]
  split
  · next hc => rw [h hc]
  · rfl

theorem found_link (hwhole : Whole label address) (rest : Text) :
    found ((Piece.link label address).spelled ++ rest) = .link label address :: found rest := by
  obtain ⟨t, ht⟩ : ∃ t, '[' :: t = (Piece.link label address).spelled ++ rest := ⟨_, rfl⟩
  have hparts : linkParts? t = some (label, address) :=
    linkParts?_eq_some_iff.2 ⟨hwhole, rest, ht⟩
  rw [← ht, found, if_pos rfl, hparts]
  show Piece.link label address :: found (t.drop (label.length + address.length + 3)) = _
  rw [drop_of_spelled ht]

/-- `unlink` keeps what is seen of the pieces. -/
theorem visible_found (t : Text) : visible (found t) = unlink t := by
  induction t using found.induct with
  | case1 => rw [found, unlink]; rfl
  | case2 t label address hparts ih =>
    rw [found, unlink, if_pos rfl, if_pos rfl, hparts]
    show visible (.link label address :: found _) = label ++ unlink _
    rw [visible_cons, ih]
    rfl
  | case3 t hparts ih =>
    rw [found_plain fun _ => hparts, unlink, if_pos rfl, hparts, visible_cons, ih]
    rfl
  | case4 c t hc ih =>
    rw [found_plain fun h => absurd h hc, unlink, if_neg hc, visible_cons, ih]
    rfl

/-- Nothing of a text is lost when it is cut into pieces. -/
theorem spell_found (t : Text) : spell (found t) = t := by
  induction t using found.induct with
  | case1 => rw [found]; rfl
  | case2 t label address hparts ih =>
    obtain ⟨hwhole, rest, hrest⟩ := linkParts?_eq_some_iff.1 hparts
    rw [drop_of_spelled hrest] at ih
    rw [hrest, found_link hwhole, spell_cons, ih]
  | case3 t hparts ih =>
    rw [found_plain fun _ => hparts, spell_cons, ih]
    rfl
  | case4 c t hc ih =>
    rw [found_plain fun h => absurd h hc, spell_cons, ih]
    rfl

/-! ## Reading back -/

/-- No opening bracket among the pieces makes a link of what comes after it. -/
def NoStray (ps : List Piece) : Prop :=
  ∀ after, (.plain '[' :: after) <:+ ps → linkParts? (spell after) = none

theorem noStray_nil : NoStray [] := by
  intro after h
  exact absurd (List.suffix_nil.1 h) (List.cons_ne_nil _ _)

theorem noStray_cons :
    NoStray (p :: ps) ↔ (p = .plain '[' → linkParts? (spell ps) = none) ∧ NoStray ps := by
  constructor
  · intro h
    refine ⟨?_, fun after hafter => h after (hafter.trans (List.suffix_cons p ps))⟩
    rintro rfl
    exact h ps (List.suffix_refl _)
  · rintro ⟨hhead, htail⟩ after hafter
    rcases List.suffix_cons_iff.1 hafter with heq | hsuffix
    · obtain ⟨rfl, rfl⟩ := List.cons.inj heq
      exact hhead rfl
    · exact htail after hsuffix

/-- Every link among the pieces ends where it should. -/
def AllWhole (ps : List Piece) : Prop :=
  ∀ label address, .link label address ∈ ps → Whole label address

/-- **Reading back.**  Spelled pieces are found again exactly when there is no stray bracket. -/
theorem found_spell_iff (hwhole : AllWhole ps) : found (spell ps) = ps ↔ NoStray ps := by
  induction ps with
  | nil => rw [spell_nil, found]; exact iff_of_true rfl noStray_nil
  | cons p ps ih =>
    have ih := ih fun l a h => hwhole l a (List.mem_cons_of_mem p h)
    rw [noStray_cons, ← ih, spell_cons]
    cases p with
    | link label address =>
      -- the link is found where it is spelled, whatever comes after it
      have hlink := hwhole label address (List.mem_cons_self ..)
      rw [found_link hlink]
      simp
    | plain c =>
      show found (c :: spell ps) = .plain c :: ps ↔ _
      by_cases hc : c = '[' → linkParts? (spell ps) = none
      · rw [found_plain hc]
        simpa using fun _ => hc
      · -- the bracket is found as the start of a link, so it is not read back
        rw [Classical.not_imp] at hc
        obtain ⟨rfl, hsome⟩ := hc
        obtain ⟨⟨label, address⟩, hparts⟩ := Option.ne_none_iff_exists'.1 hsome
        rw [found, if_pos rfl, hparts]
        simp

end Scenarist.Sentence
