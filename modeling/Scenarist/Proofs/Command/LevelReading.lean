/-
  Reading levels — how the words of a level are read, one after the other.

  1. **One word** — a word is an operand (`isValueWord`), two dashes, or a word of options.  For each of
     the three there is one equation (`readLevel_operand`, `readLevel_dashes`, `readLevel_optionWord`),
     and the other proofs never open the reader.

  2. **Over a base** — `l.over base` is the level `l`, read after what is in `base`.  A reading that
     succeeds over a base succeeds without it, and finds the same (`readLevel_over`): the words before
     only forbid repetitions.

  3. **Up to the first operand** — the reader of a level without operands stops at the first one.  From
     there the reader of a level with operands goes on (`readLevel_front`).
-/
import Scenarist.Proofs.Command.ArgumentWords
import Scenarist.Proofs.Files.Writing

namespace Scenarist.Command

variable {allowed : List Opt} {most : Option Nat} {pending : Option Opt} {l l' base front : Level}
  {o : Opt} {value word : Text} {words rest : List Text}

/-! ## One word -/

/-- A word of options, with its dashes: the level after it, and the option that takes the next word. -/
def optionWord (allowed : List Opt) (l : Level) : Text → Except Stop (Level × Option Opt)
  | '-' :: '-' :: name => longOption allowed l name
  | '-' :: cs => shortOptions allowed l cs
  | _ => .error .wrong

theorem isValueWord_iff : isValueWord word = true ↔ word = ['-'] ∨ word.head? ≠ some '-' := by
  rw [isValueWord, Bool.or_eq_true, decide_eq_true_iff, decide_eq_true_iff]

/-- An operand does not look like options. -/
theorem ne_of_isValueWord (h : isValueWord word = true) :
    word ≠ ['-', '-'] ∧ (∀ name, word ≠ '-' :: '-' :: name) ∧ ∀ c cs, word ≠ '-' :: c :: cs := by
  rw [isValueWord_iff] at h
  refine ⟨?_, ?_, ?_⟩
  · rintro rfl
    simp at h
  · rintro name rfl
    simp at h
  · rintro c cs rfl
    simp at h

/-- Where no operand is allowed, the first one ends the level. -/
theorem readLevel_operand_end (h : isValueWord word = true) :
    readLevel allowed none none l (word :: words) = .ok (l, word :: words) := by
  obtain ⟨h1, h2, h3⟩ := ne_of_isValueWord h
  rw [readLevel]
  · exact h1
  · exact h2
  · exact h3

theorem readLevel_operand {n : Nat} (h : isValueWord word = true) :
    readLevel allowed (some n) none l (word :: words)
      = if l.operands.length < n then
          readLevel allowed (some n) none { l with operands := word :: l.operands } words
        else .error .wrong := by
  obtain ⟨h1, h2, h3⟩ := ne_of_isValueWord h
  rw [readLevel]
  · exact h1
  · exact h2
  · exact h3

/-- Any other word but two dashes is one of options. -/
theorem readLevel_optionWord (h : isValueWord word = false) (hdashes : word ≠ ['-', '-']) :
    readLevel allowed most none l (word :: words)
      = optionWord allowed l word >>= fun next => readLevel allowed most next.2 next.1 words := by
  match word with
  | [] => cases h
  | [c] =>
    -- a dash alone is an operand, and so is a letter
    simp [isValueWord] at h
  | c :: d :: cs =>
    obtain rfl : c = '-' := by simpa [isValueWord] using h
    by_cases hd : d = '-'
    · subst hd
      rw [readLevel]
      · rfl
      · rintro rfl
        exact hdashes rfl
    · rw [readLevel]
      · rw [optionWord.eq_2]
        rintro name ⟨⟩
        exact hd rfl
      · exact fun h _ => hd h
      · exact hd

/-! ## Over a base -/

/-- A level that is read after what is in `base`. -/
def Level.over (l base : Level) : Level :=
  ⟨l.options ++ base.options, l.operands ++ base.operands⟩

theorem add_eq_ok_iff : l.add o value = .ok l' ↔
    (o ≠ .help ∧ o ≠ .version ∧ (l.has o && !o.mayRepeat) = false ∧
      (o.takesValue && value.isEmpty && !o.mayBeEmpty) = false) ∧
    { l with options := (o, value) :: l.options } = l' := by
  rw [Level.add]
  split
  · simp [*]
  · split
    · simp [*]
    · split
      · simp [*]
      · split <;> simp_all

theorem add_over (h : (l.over base).add o value = .ok l') :
    ∃ m, l' = m.over base ∧ l.add o value = .ok m ∧ m.operands = l.operands := by
  obtain ⟨⟨hhelp, hversion, hnew, hvalue⟩, rfl⟩ := add_eq_ok_iff.1 h
  refine ⟨_, rfl, add_eq_ok_iff.2 ⟨⟨hhelp, hversion, ?_, hvalue⟩, rfl⟩, rfl⟩
  rw [Level.has, Level.over, List.any_append] at hnew
  cases hhas : l.has o with
  | false => rfl
  | true =>
    rw [Level.has] at hhas
    simpa [hhas] using hnew

/-- After an option that is added none waits for its value. -/
theorem added_eq_ok (h : (l.add o value >>= fun m => pure (m, none)) = .ok (l', pending)) :
    pending = none ∧ l.add o value = .ok l' := by
  obtain ⟨added, hadd, heq⟩ := exists_of_bind_eq_ok h
  cases heq
  exact ⟨rfl, hadd⟩

theorem added_over
    (h : ((l.over base).add o value >>= fun m => pure (m, none)) = .ok (l', pending)) :
    ∃ m, l' = m.over base ∧ (l.add o value >>= fun m => pure (m, none)) = .ok (m, pending) ∧
      m.operands = l.operands := by
  obtain ⟨rfl, hadd⟩ := added_eq_ok h
  obtain ⟨m, rfl, hm, hoperands⟩ := add_over hadd
  exact ⟨m, rfl, by rw [hm]; rfl, hoperands⟩

theorem longOption_over {name : Text}
    (h : longOption allowed (l.over base) name = .ok (l', pending)) :
    ∃ m, l' = m.over base ∧ longOption allowed l name = .ok (m, pending) ∧
      m.operands = l.operands := by
  unfold longOption at h ⊢
  dsimp only at h ⊢
  split at h
  · cases h
  · split at h
    · next htakes =>
      cases h
      exact ⟨l, rfl, if_pos htakes, rfl⟩
    · next htakes =>
      rw [if_neg htakes]
      exact added_over h
  · split at h
    · next htakes =>
      rw [if_pos htakes]
      exact added_over h
    · cases h

theorem shortOptions_over (cs : Text) : ∀ l : Level,
    shortOptions allowed (l.over base) cs = .ok (l', pending) →
    ∃ m, l' = m.over base ∧ shortOptions allowed l cs = .ok (m, pending) ∧
      m.operands = l.operands := by
  induction cs with
  | nil =>
    intro l h
    cases h
    exact ⟨l, rfl, rfl, rfl⟩
  | cons c rest ih =>
    intro l h
    unfold shortOptions at h ⊢
    split at h
    · cases h
    · split at h
      · next htakes =>
        rw [if_pos htakes]
        split at h
        · cases h
          exact ⟨l, rfl, rfl, rfl⟩
        · exact added_over h
        · exact added_over h
      · next htakes =>
        obtain ⟨added, hadd, hrest⟩ := exists_of_bind_eq_ok h
        obtain ⟨m, rfl, hm, hoperands⟩ := add_over hadd
        rw [if_neg htakes, hm, ← hoperands]
        exact ih m hrest

theorem shortOptions_base {cs : Text} (h : shortOptions allowed l cs = .ok (l', pending)) :
    ∃ m : Level, l' = m.over l := by
  have hover : shortOptions allowed (({} : Level).over l) cs = .ok (l', pending) := h
  obtain ⟨m, hm, -⟩ := shortOptions_over cs {} hover
  exact ⟨m, hm⟩

/-- Options that are read over a base are read without it, and they are no operands. -/
theorem optionWord_over (h : optionWord allowed (l.over base) word = .ok (l', pending)) :
    ∃ m, l' = m.over base ∧ optionWord allowed l word = .ok (m, pending) ∧
      m.operands = l.operands := by
  unfold optionWord at h ⊢
  split at h
  · exact longOption_over h
  · exact shortOptions_over _ l h
  · cases h

theorem operands_optionWord (h : optionWord allowed l word = .ok (l', pending)) :
    l'.operands = l.operands := by
  have hover : optionWord allowed (({} : Level).over l) word = .ok (l', pending) := h
  obtain ⟨m, rfl, -, hoperands⟩ := optionWord_over hover
  rw [Level.over, hoperands]
  rfl

/-- **A reading over a base** is one without it: what is read before only forbids repetitions. -/
theorem readLevel_over (words : List Text) : ∀ (pending : Option Opt) (l : Level),
    readLevel allowed most pending (l.over base) words = .ok (l', rest) →
    ∃ m, l' = m.over base ∧ readLevel allowed most pending l words = .ok (m, rest) := by
  induction words with
  | nil =>
    intro pending l h
    rw [readLevel] at h ⊢
    split at h
    · cases h
    · next hnone =>
      cases h
      exact ⟨l, rfl, if_neg hnone⟩
  | cons word words ih =>
    intro pending l h
    cases pending with
    | some o =>
      rw [readLevel] at h ⊢
      split at h
      · next hvalue =>
        obtain ⟨added, hadd, hrest⟩ := exists_of_bind_eq_ok h
        obtain ⟨m, rfl, hm, -⟩ := add_over hadd
        rw [if_pos hvalue, hm]
        exact ih none m hrest
      · cases h
    | none =>
      cases hvalue : isValueWord word with
      | true =>
        cases most with
        | none =>
          rw [readLevel_operand_end hvalue] at h ⊢
          cases h
          exact ⟨l, rfl, rfl⟩
        | some n =>
          rw [readLevel_operand hvalue] at h ⊢
          split at h
          · next hroom =>
            have hfewer : l.operands.length < n := by
              rw [Level.over, List.length_append] at hroom
              omega
            rw [if_pos hfewer]
            exact ih none { l with operands := word :: l.operands } h
          · cases h
      | false =>
        by_cases hdashes : word = ['-', '-']
        · subst hdashes
          cases most with
          | none => rw [readLevel] at h; cases h
          | some n =>
            rw [readLevel] at h ⊢
            split at h
            · next hroom =>
              cases h
              have hfewer : l.operands.length + words.length ≤ n := by
                rw [Level.over, List.length_append] at hroom
                omega
              rw [if_pos hfewer]
              exact ⟨_, by simp [Level.over], rfl⟩
            · cases h
        · rw [readLevel_optionWord hvalue hdashes] at h ⊢
          obtain ⟨⟨next, pending⟩, hword, hrest⟩ := exists_of_bind_eq_ok h
          obtain ⟨m, rfl, hm, -⟩ := optionWord_over hword
          rw [hm]
          exact ih pending m hrest

/-- What has been read is kept. -/
theorem readLevel_base (h : readLevel allowed most pending l words = .ok (l', rest)) :
    ∃ m : Level, l' = m.over l := by
  have hover : readLevel allowed most pending (({} : Level).over l) words = .ok (l', rest) := h
  obtain ⟨m, hm, -⟩ := readLevel_over words pending {} hover
  exact ⟨m, hm⟩

/-! ## Up to the first operand -/

/-- **From the first operand on** a level with operands is read as one whose options are those before
it. -/
theorem readLevel_front (words : List Text) : ∀ (pending : Option Opt) (l : Level),
    readLevel allowed none pending l words = .ok (front, rest) →
    (∀ n, readLevel allowed (some n) pending l words = readLevel allowed (some n) none front rest) ∧
    front.operands = l.operands ∧ ∀ operand ∈ rest.head?, isValueWord operand = true := by
  induction words with
  | nil =>
    intro pending l h
    rw [readLevel] at h
    split at h
    · cases h
    · next hnone =>
      cases h
      refine ⟨fun n => ?_, rfl, fun operand hoperand => by cases hoperand⟩
      rw [readLevel, if_neg hnone]
      rfl
  | cons word words ih =>
    intro pending l h
    cases pending with
    | some o =>
      rw [readLevel] at h
      split at h
      · next hvalue =>
        obtain ⟨added, hadd, hrest⟩ := exists_of_bind_eq_ok h
        obtain ⟨-, rfl⟩ := add_eq_ok_iff.1 hadd
        obtain ⟨hsame, hoperands, hhead⟩ := ih none _ hrest
        refine ⟨fun n => ?_, hoperands, hhead⟩
        rw [readLevel, if_pos hvalue, hadd]
        exact hsame n
      · cases h
    | none =>
      cases hvalue : isValueWord word with
      | true =>
        rw [readLevel_operand_end hvalue] at h
        cases h
        exact ⟨fun n => rfl, rfl, fun operand hoperand => by cases hoperand; exact hvalue⟩
      | false =>
        by_cases hdashes : word = ['-', '-']
        · subst hdashes
          rw [readLevel] at h
          cases h
        · rw [readLevel_optionWord hvalue hdashes] at h
          obtain ⟨⟨next, pending⟩, hword, hrest⟩ := exists_of_bind_eq_ok h
          obtain ⟨hsame, hoperands, hhead⟩ := ih pending next hrest
          refine ⟨fun n => ?_, hoperands.trans (operands_optionWord hword), hhead⟩
          rw [readLevel_optionWord hvalue hdashes, hword]
          exact hsame n

end Scenarist.Command
