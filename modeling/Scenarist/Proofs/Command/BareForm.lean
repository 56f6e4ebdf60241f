/-
  The bare form — when a page is converted without the word `convert`.

  1. **Two readers** — without the word, the options before the page are read by the program, and only
     those after it by `convert`.  The program knows the options of all levels and none of `convert`.
     A word of options that `convert` reads is read by the program too if all its options are common,
     and is wrong otherwise (`optionWord_program`).

  2. **Up to the page** — by induction along the look for the first operand: what `convert` reads before
     the page, the program reads alike, or it stops at the first option that is not common
     (`readLevel_program`).  The one value that is passed over on the way is that of the only common
     option with a value.

  3. **From the page on** — the options before the page only forbid repetitions behind it, so `convert`
     reads on without them and finds the same (`readRequest_split`).

  4. **The two forms** — they are understood alike exactly if the options before the page are common
     (`bare_form`).  An output before the page is not: its value is taken for the page
     (`bare_outputFirst`).
-/
import Scenarist.Proofs.Command.Conversion
import Scenarist.Proofs.Command.LevelReading

namespace Scenarist.Command

variable {files : Entry} {stdin : Option Text} {args words rest : List Text} {l l' front : Level}
  {o : Opt} {pending : Option Opt} {word name : Text}

/-! ## Two readers -/

/-- Whether all options of a level belong to all levels. -/
def Level.isCommon (l : Level) : Bool := l.options.all fun p => Opt.common.contains p.1

/-- Whether the options before the first operand belong to all levels, as `convert` reads them. -/
def commonFirst (args : List Text) : Bool :=
  match readLevel Opt.ofConvert none none {} args with
  | .ok (front, _) => front.isCommon
  | .error _ => false

/-- Whether the options that are read, and the one that takes the next word, belong to all levels. -/
def onlyCommon (l : Level) (pending : Option Opt) : Bool :=
  l.isCommon && pending.all fun o => Opt.common.contains o

/-- The program knows of an option of `convert` exactly if it is common. -/
theorem find?_program {p : Opt → Bool} (hunique : ∀ q, p q = true → q = o)
    (hfind : Opt.ofConvert.find? p = some o) :
    Opt.ofProgram.find? p = if Opt.common.contains o then some o else none := by
  have ho : p o = true := List.find?_some hfind
  split
  · next hcommon =>
    exact find?_eq_of_unique (List.mem_cons_of_mem _ (List.contains_iff_mem.1 hcommon)) ho hunique
  · next hother =>
    rw [List.find?_eq_none]
    intro q hq hpq
    obtain rfl := hunique q hpq
    have hconvert : q ∈ Opt.ofConvert := List.mem_of_find?_eq_some hfind
    revert hother hq hconvert
    clear hpq ho hfind hunique
    cases q <;> decide

theorem isCommon_cons (l : Level) (o : Opt) (value : Text) :
    Level.isCommon { l with options := (o, value) :: l.options }
      = (Opt.common.contains o && l.isCommon) := List.all_cons

theorem isCommon_added (hl : l.isCommon = true) (o : Opt) (value : Text) :
    Level.isCommon { l with options := (o, value) :: l.options } = Opt.common.contains o := by
  rw [isCommon_cons, hl, Bool.and_true]

theorem onlyCommon_added (hl : l.isCommon = true) (o : Opt) (value : Text) :
    onlyCommon { l with options := (o, value) :: l.options } none = Opt.common.contains o := by
  rw [onlyCommon, isCommon_added hl, Option.all_none, Bool.and_true]

theorem onlyCommon_waiting (hl : l.isCommon = true) (o : Opt) :
    onlyCommon l (some o) = Opt.common.contains o := by
  rw [onlyCommon, hl, Bool.true_and, Option.all_some]

/-- An option that is waiting is a common one with a value only if it is the settings file. -/
theorem eq_config (htakes : o.takesValue = true) (hcommon : Opt.common.contains o = true) :
    o = .config := by
  revert htakes hcommon
  cases o <;> decide

/-- A long option waits for its value or is added. -/
theorem longOption_found {allowed : List Opt}
    (hfind : allowed.find? (fun o => o.long = name.takeWhile (· != '=')) = some o)
    (h : longOption allowed l name = .ok (l', pending)) :
    (pending = some o ∧ l' = l ∧ o.takesValue = true ∧ name = o.long) ∨
      pending = none ∧ ∃ value, { l with options := (o, value) :: l.options } = l' := by
  have hlong := List.find?_some hfind
  rw [decide_eq_true_iff] at hlong
  have hadded : ∀ value, (l.add o value >>= fun m => pure (m, none)) = .ok (l', pending) →
      pending = none ∧ ∃ value, { l with options := (o, value) :: l.options } = l' := by
    intro value h
    obtain ⟨rfl, hadd⟩ := added_eq_ok h
    exact ⟨rfl, value, (add_eq_ok_iff.1 hadd).2⟩
  simp only [longOption, hfind] at h
  split at h
  · next heq => cases heq
  · next heq hdrop =>
    cases heq
    split at h
    · next htakes =>
      cases h
      have hname : name.takeWhile (· != '=') = name :=
        (List.takeWhile_prefix _).eq_of_length_le (List.drop_eq_nil_iff.1 hdrop)
      exact .inl ⟨rfl, rfl, htakes, (hlong.trans hname).symm⟩
    · exact .inr (hadded _ h)
  · next heq hdrop =>
    cases heq
    split at h
    · exact .inr (hadded _ h)
    · cases h

theorem longOption_program (hl : l.isCommon = true)
    (h : longOption Opt.ofConvert l name = .ok (l', pending)) :
    longOption Opt.ofProgram l name
      = if onlyCommon l' pending then .ok (l', pending) else .error .wrong := by
  cases hfind : Opt.ofConvert.find? fun o => o.long = name.takeWhile (· != '=') with
  | none =>
    simp only [longOption, hfind] at h
    cases h
  | some o =>
    have hprogram := find?_program (fun q hq => ?unique) hfind
    case unique =>
      have hlong := List.find?_some hfind
      exact Opt.long_inj o q ((of_decide_eq_true hq).trans (of_decide_eq_true hlong).symm)
    have honly : onlyCommon l' pending = Opt.common.contains o := by
      obtain ⟨rfl, rfl, -⟩ | ⟨rfl, value, rfl⟩ := longOption_found hfind h
      · exact onlyCommon_waiting hl o
      · exact onlyCommon_added hl o value
    rw [honly]
    by_cases hcommon : Opt.common.contains o = true
    · rw [if_pos hcommon] at hprogram ⊢
      rw [← h]
      simp only [longOption, hprogram, hfind]
    · rw [if_neg hcommon] at hprogram ⊢
      simp only [longOption, hprogram]

theorem isCommon_over (l base : Level) :
    (l.over base).isCommon = (l.isCommon && base.isCommon) := List.all_append

/-- A short option that waits for its value has a short name. -/
theorem shortOptions_waiting {allowed : List Opt} (cs : Text) : ∀ l : Level,
    shortOptions allowed l cs = .ok (l', some o) → o.takesValue = true ∧ o.short? ≠ none := by
  induction cs with
  | nil => nofun
  | cons c rest ih =>
    intro l h
    unfold shortOptions at h
    split at h
    · cases h
    · next p hfind =>
      have hshort := List.find?_some hfind
      rw [decide_eq_true_iff] at hshort
      split at h
      · next htakes =>
        split at h
        · cases h
          exact ⟨htakes, by rw [hshort]; exact Option.some_ne_none c⟩
        · cases (added_eq_ok h).1
        · cases (added_eq_ok h).1
      · obtain ⟨added, -, hrest⟩ := exists_of_bind_eq_ok h
        exact ih added hrest

/-- Where the first short option is not common, the options that are read are not. -/
theorem onlyCommon_shortOptions {c : Char} {cs : Text} (hl : l.isCommon = true)
    (hfind : (Opt.ofConvert.find? fun o => o.short? = some c) = some o)
    (hother : Opt.common.contains o = false)
    (h : shortOptions Opt.ofConvert l (c :: cs) = .ok (l', pending)) :
    onlyCommon l' pending = false := by
  have hadded : ∀ value, (l.add o value >>= fun m => pure (m, none)) = .ok (l', pending) →
      onlyCommon l' pending = false := by
    intro value h
    obtain ⟨rfl, hadd⟩ := added_eq_ok h
    obtain ⟨-, rfl⟩ := add_eq_ok_iff.1 hadd
    exact (onlyCommon_added hl o value).trans hother
  simp only [shortOptions, hfind] at h
  split at h
  · split at h
    · cases h
      exact (onlyCommon_waiting hl o).trans hother
    · exact hadded _ h
    · exact hadded _ h
  · obtain ⟨added, hadd, hrest⟩ := exists_of_bind_eq_ok h
    obtain ⟨-, rfl⟩ := add_eq_ok_iff.1 hadd
    obtain ⟨m, rfl⟩ := shortOptions_base hrest
    rw [onlyCommon, isCommon_over, isCommon_added hl o [], hother, Bool.and_false, Bool.false_and]

theorem shortOptions_program (cs : Text) : ∀ l : Level, l.isCommon = true →
    shortOptions Opt.ofConvert l cs = .ok (l', pending) →
    shortOptions Opt.ofProgram l cs
      = if onlyCommon l' pending then .ok (l', pending) else .error .wrong := by
  induction cs with
  | nil =>
    intro l hl h
    cases h
    rw [onlyCommon, hl]
    rfl
  | cons c rest ih =>
    intro l hl h
    cases hfind : Opt.ofConvert.find? fun o => o.short? = some c with
    | none =>
      simp only [shortOptions, hfind] at h
      cases h
    | some o =>
      have hprogram := find?_program (fun q hq => ?unique) hfind
      case unique =>
        have hshort := List.find?_some hfind
        exact Opt.short?_inj o q c (of_decide_eq_true hshort) (of_decide_eq_true hq)
      cases hcommon : Opt.common.contains o with
      | false =>
        rw [hcommon, if_neg Bool.false_ne_true] at hprogram
        rw [onlyCommon_shortOptions hl hfind hcommon h]
        simp only [shortOptions, hprogram]
        rfl
      | true =>
        rw [hcommon, if_pos rfl] at hprogram
        simp only [shortOptions, hfind, hprogram] at h ⊢
        split at h
        · next htakes =>
          -- the only common option with a value has no short name
          have hshort := List.find?_some hfind
          rw [eq_config htakes hcommon] at hshort
          cases hshort
        · next htakes =>
          obtain ⟨added, hadd, hrest⟩ := exists_of_bind_eq_ok h
          obtain ⟨-, rfl⟩ := add_eq_ok_iff.1 hadd
          rw [if_neg htakes, hadd]
          exact ih _ ((isCommon_added hl o []).trans hcommon) hrest

/-- **One word of options** is read by the program as by `convert` if only common options are in it, and
is wrong otherwise. -/
theorem optionWord_program (hl : l.isCommon = true)
    (h : optionWord Opt.ofConvert l word = .ok (l', pending)) :
    optionWord Opt.ofProgram l word
      = if onlyCommon l' pending then .ok (l', pending) else .error .wrong := by
  unfold optionWord at h ⊢
  split at h
  · exact longOption_program hl h
  · exact shortOptions_program _ l hl h
  · cases h

/-- The only word after which a common option waits for its value. -/
theorem eq_config_of_waiting (h : optionWord Opt.ofConvert l word = .ok (l', some o))
    (hcommon : Opt.common.contains o = true) : word = "--config".toList := by
  unfold optionWord at h
  split at h
  · next name =>
    cases hfind : Opt.ofConvert.find? fun o => o.long = name.takeWhile (· != '=') with
    | none =>
      simp only [longOption, hfind] at h
      cases h
    | some p =>
      obtain ⟨heq, -, htakes, hname⟩ | ⟨hnone, -⟩ := longOption_found hfind h
      · obtain rfl : o = p := Option.some.inj heq
        obtain rfl := eq_config htakes hcommon
        rw [hname]
        rfl
      · cases hnone
  · obtain ⟨htakes, hshort⟩ := shortOptions_waiting _ l h
    obtain rfl := eq_config htakes hcommon
    exact absurd rfl hshort
  · cases h

/-! ## Up to the page -/

/-- What the program reads of the words that `convert` has read something of. -/
def programReading : Except Stop (Level × List Text) → Except Stop (Level × List Text)
  | .ok (front, rest) =>
      if front.isCommon then .ok (front, withSubcommand rest) else .error .wrong
  | .error _ => .error .wrong

theorem readLevel_config {allowed : List Opt} (h : Opt.config ∈ allowed) (most : Option Nat)
    (l : Level) (words : List Text) :
    readLevel allowed most none l ("--config".toList :: words)
      = readLevel allowed most (some .config) l words :=
  readLevel_word most ⟨.config, [], false⟩ h l words

theorem isCommon_of_readLevel {allowed : List Opt} {most : Option Nat} (hl : l.isCommon = false)
    (h : readLevel allowed most pending l words = .ok (front, rest)) : front.isCommon = false := by
  obtain ⟨m, rfl⟩ := readLevel_base h
  rw [isCommon_over, hl, Bool.and_false]

/-- Where an option is not common, the options up to the first operand are not. -/
theorem programReading_of_not_common (h : onlyCommon l pending = false) :
    programReading (readLevel Opt.ofConvert none pending l words) = .error .wrong := by
  cases hread : readLevel Opt.ofConvert none pending l words with
  | error stop => rfl
  | ok r =>
    obtain ⟨front, rest⟩ := r
    have hfront : front.isCommon = false := by
      cases pending with
      | none =>
        rw [onlyCommon, Option.all_none, Bool.and_true] at h
        exact isCommon_of_readLevel h hread
      | some o =>
        -- the option that waits is added with the next word
        cases words with
        | nil => cases hread
        | cons word words =>
          rw [readLevel] at hread
          split at hread
          · obtain ⟨added, hadd, hrest⟩ := exists_of_bind_eq_ok hread
            obtain ⟨-, rfl⟩ := add_eq_ok_iff.1 hadd
            rw [onlyCommon, Option.all_some, Bool.and_comm] at h
            exact isCommon_of_readLevel ((isCommon_cons l o word).trans h) hrest
          · cases hread
    rw [programReading, hfront]
    rfl

theorem withSubcommand_operand (hconfig : word ≠ "--config".toList) (hword : isValueWord word = true) :
    withSubcommand (word :: words)
      = if subcommands.contains word then word :: words else "convert".toList :: word :: words := by
  rw [withSubcommand.eq_def]
  dsimp only
  rw [if_neg hconfig]
  exact if_pos hword

theorem withSubcommand_option (hconfig : word ≠ "--config".toList) (hword : isValueWord word = false) :
    withSubcommand (word :: words) = word :: withSubcommand words := by
  rw [withSubcommand.eq_def]
  dsimp only
  rw [if_neg hconfig]
  exact if_neg (Bool.eq_false_iff.1 hword)

theorem readLevel_program_operand (hl : l.isCommon = true) (hconfig : word ≠ "--config".toList)
    (hword : isValueWord word = true) :
    readLevel Opt.ofProgram none none l (withSubcommand (word :: words))
      = programReading (readLevel Opt.ofConvert none none l (word :: words)) := by
  rw [readLevel_operand_end hword, programReading, if_pos hl, withSubcommand_operand hconfig hword]
  split
  · rw [readLevel_operand_end hword]
  · rw [readLevel_operand_end rfl]

/-- **Up to the first operand** the program reads what `convert` reads if that is common, and finds
something wrong otherwise. -/
theorem readLevel_program (words : List Text) : ∀ l : Level, l.isCommon = true →
    (∃ r, readLevel Opt.ofConvert (some 1) none l words = .ok r) →
    readLevel Opt.ofProgram none none l (withSubcommand words)
      = programReading (readLevel Opt.ofConvert none none l words) := by
  induction words using withSubcommand.induct with
  | case1 =>
    intro l hl _
    show _ = if l.isCommon then _ else _
    rw [if_pos hl]
    rfl
  | case2 =>
    rintro l hl ⟨r, h⟩
    rw [readLevel_config (by decide), readLevel] at h
    cases h
  | case3 value words ih =>
    rintro l hl ⟨r, h⟩
    rw [readLevel_config (by decide), readLevel] at h
    split at h
    · next hvalue =>
      obtain ⟨added, hadd, hrest⟩ := exists_of_bind_eq_ok h
      obtain ⟨-, rfl⟩ := add_eq_ok_iff.1 hadd
      have hcommon := (isCommon_added hl .config value).trans rfl
      rw [withSubcommand, if_pos rfl, readLevel_config (by decide), readLevel, if_pos hvalue, hadd,
        readLevel_config (by decide), readLevel, if_pos hvalue, hadd]
      exact ih _ hcommon ⟨r, hrest⟩
    · cases h
  | case4 word words hconfig hword =>
    intro l hl _
    exact readLevel_program_operand hl hconfig hword
  | case5 word words hconfig hword =>
    intro l hl _
    exact readLevel_program_operand hl hconfig hword
  | case6 word words hconfig hdash ih =>
    rintro l hl ⟨r, h⟩
    have hword : isValueWord word = false := Bool.eq_false_iff.2 hdash
    rw [withSubcommand_option hconfig hword]
    by_cases hdashes : word = ['-', '-']
    · subst hdashes
      rw [readLevel, readLevel]
      rfl
    · rw [readLevel_optionWord hword hdashes] at h ⊢
      rw [readLevel_optionWord hword hdashes]
      obtain ⟨⟨next, pending⟩, hnext, hrest⟩ := exists_of_bind_eq_ok h
      rw [hnext, optionWord_program hl hnext]
      cases honly : onlyCommon next pending with
      | false => exact (programReading_of_not_common honly).symm
      | true =>
        rw [onlyCommon, Bool.and_eq_true] at honly
        obtain ⟨hcommon, hpending⟩ := honly
        cases pending with
        | some o => exact absurd (eq_config_of_waiting hnext hpending) hconfig
        | none => exact ih next hcommon ⟨r, hrest⟩

/-! ## From the page on -/

/-- The request that a program level and a level of `convert` come to. -/
def requestOf (outer inner : Level) : Except Stop Request := do
  return { config := (inner.value? .config).or (outer.value? .config), task := ← inner.convert }

theorem readRequest_convert {outer : Level}
    (h : readLevel Opt.ofProgram none none {} words = .ok (outer, "convert".toList :: rest)) :
    readRequest words
      = readLevel Opt.ofConvert (some 1) none {} rest >>= fun inner => requestOf outer inner.1 := by
  unfold readRequest
  rw [h]
  rfl

theorem parse_convert (args : List Text) :
    parseArguments ("convert".toList :: args)
      = readLevel Opt.ofConvert (some 1) none {} args >>= fun inner => requestOf {} inner.1 := by
  have hname : withSubcommand ("convert".toList :: args) = "convert".toList :: args := by
    rw [withSubcommand_operand (by decide) rfl]
    rfl
  rw [parseArguments, hname]
  exact readRequest_convert (readLevel_operand_end rfl)

theorem ne_of_isCommon (hl : l.isCommon = true) (ho : Opt.common.contains o = false) :
    ∀ p ∈ l.options, p.1 ≠ o := by
  rintro p hp rfl
  rw [List.all_eq_true.1 hl p hp] at ho
  cases ho

theorem has_over {base : Level} (hbase : base.isCommon = true) (ho : Opt.common.contains o = false)
    (l : Level) : (l.over base).has o = l.has o := by
  have hnone : base.has o = false := by
    rw [Level.has, List.any_eq_false]
    exact fun p hp => by simpa using ne_of_isCommon hbase ho p hp
  rw [Level.has, Level.over, List.any_append]
  exact (congrArg (l.has o || ·) hnone).trans (Bool.or_false _)

theorem value?_over {base : Level} (hbase : base.isCommon = true)
    (ho : Opt.common.contains o = false) (l : Level) : (l.over base).value? o = l.value? o := by
  have hnone : base.options.lookup o = none := by
    rw [List.lookup_eq_none_iff]
    exact fun p hp => by simpa using (ne_of_isCommon hbase ho p hp).symm
  rw [Level.value?, Level.over, List.lookup_append, hnone, Option.or_none, Level.value?]

/-- Options before the page that are common settle nothing of the task but the settings file. -/
theorem requestOf_over {base : Level} (hbase : base.isCommon = true) (hoperands : base.operands = [])
    (l : Level) : requestOf {} (l.over base) = requestOf base l := by
  have hconfig : ((l.over base).value? .config).or (Level.value? {} .config)
      = (l.value? .config).or (base.value? .config) := by
    rw [Level.value?, Level.over, List.lookup_append]
    exact Option.or_none
  have htask : (l.over base).convert = l.convert := by
    have hsame : (l.over base).operands = l.operands := by
      rw [Level.over, hoperands, List.append_nil]
    rw [Level.convert, Level.convert, hsame, value?_over hbase (by decide),
      has_over hbase (by decide), has_over hbase (by decide), has_over hbase (by decide),
      has_over hbase (by decide)]
  rw [requestOf, requestOf, hconfig, htask]

theorem operands_of_request {config : Option Text} {r : ConvertRequest} {outer inner : Level}
    (h : requestOf outer inner = .ok ⟨config, .convert r⟩) : inner.operands = [r.file] := by
  obtain ⟨task, htask, heq⟩ := exists_of_bind_eq_ok h
  cases heq
  unfold Level.convert at htask
  split at htask
  · next file hfile =>
    cases htask
    exact hfile
  · cases htask

/-- **From the page on** `convert` reads the same without the common options before it, which the
program has read. -/
theorem readRequest_split {config : Option Text} {r : ConvertRequest}
    (hfront : readLevel Opt.ofConvert none none {} args = .ok (front, rest))
    (hcommon : front.isCommon = true)
    (haccepted : parseArguments ("convert".toList :: args) = .ok ⟨config, .convert r⟩)
    (hfile : r.file ∉ subcommands) :
    parseArguments args = .ok ⟨config, .convert r⟩ := by
  rw [parse_convert] at haccepted
  obtain ⟨⟨inner, left⟩, hinner, hrequest⟩ := exists_of_bind_eq_ok haccepted
  have hprogram := readLevel_program args {} rfl ⟨_, hinner⟩
  rw [hfront, programReading, if_pos hcommon] at hprogram
  obtain ⟨hsame, hoperands, hhead⟩ := readLevel_front args none {} hfront
  rw [hsame 1] at hinner
  have hover : readLevel Opt.ofConvert (some 1) none (({} : Level).over front) rest
      = .ok (inner, left) := hinner
  obtain ⟨m, rfl, hm⟩ := readLevel_over rest none {} hover
  rw [requestOf_over hcommon hoperands] at hrequest
  have hpage := operands_of_request hrequest
  cases rest with
  | nil =>
    -- without an operand there is no request
    cases hm
    cases hpage
  | cons file more =>
    have hword : isValueWord file = true := hhead file rfl
    obtain rfl : file = r.file := by
      have hroom : ({} : Level).operands.length < 1 := Nat.zero_lt_one
      have hpast := hm
      rw [readLevel_operand hword, if_pos hroom] at hpast
      obtain ⟨behind, rfl⟩ := readLevel_base hpast
      have hlast := congrArg List.getLast? hpage
      simpa [Level.over] using hlast
    have hconfig : r.file ≠ "--config".toList := fun h => by
      rw [h] at hword
      cases hword
    have hnone : subcommands.contains r.file ≠ true := fun h => hfile (List.contains_iff_mem.1 h)
    rw [withSubcommand_operand hconfig hword, if_neg hnone] at hprogram
    rw [parseArguments, readRequest_convert hprogram, hm]
    exact hrequest

/-! ## The two forms -/

/-- The bare form is understood as the other one if the options before the page are common, and is wrong
otherwise. -/
theorem parse_bare {config : Option Text} {r : ConvertRequest}
    (haccepted : parseArguments ("convert".toList :: args) = .ok ⟨config, .convert r⟩)
    (hfile : r.file ∉ subcommands) :
    parseArguments args
      = if commonFirst args then parseArguments ("convert".toList :: args) else .error .wrong := by
  have hwrong : programReading (readLevel Opt.ofConvert none none {} args) = .error .wrong →
      parseArguments args = .error .wrong := by
    intro hreading
    have hconvert := haccepted
    rw [parse_convert] at hconvert
    obtain ⟨inner, hinner, -⟩ := exists_of_bind_eq_ok hconvert
    have hprogram := readLevel_program args {} rfl ⟨_, hinner⟩
    rw [hreading] at hprogram
    rw [parseArguments]
    unfold readRequest
    rw [hprogram]
    rfl
  unfold commonFirst
  cases hfront : readLevel Opt.ofConvert none none {} args with
  | error stop => exact hwrong (by rw [hfront]; rfl)
  | ok reading =>
    obtain ⟨front, rest⟩ := reading
    dsimp only
    split
    · next hcommon => rw [readRequest_split hfront hcommon haccepted hfile, haccepted]
    · next hother => exact hwrong (by rw [hfront, programReading, if_neg hother])

/-- Arguments that are understood alike are carried out alike. -/
theorem run_congr {other : List Text} (h : parseArguments args = parseArguments other) :
    run files stdin args = run files stdin other := by
  rw [run, run, plan, plan, h]

theorem seen_run_of_wrong (h : parseArguments args = .error .wrong) :
    seen (run files stdin args) = (2, [], files) := by
  rw [seen_run, plan, h]
  rfl

/-- **The bare form.**  Let `convert` accept some arguments, and let the page be no word that names a
subcommand.  Without the word `convert` they come to the same, whatever the files and the standard input
are, if only options of all levels stand before the page.  If any other option does, or two dashes, they
are wrong: nothing is printed and no file is written. -/
theorem bare_form {config : Option Text} {r : ConvertRequest}
    (haccepted : parseArguments ("convert".toList :: args) = .ok ⟨config, .convert r⟩)
    (hfile : r.file ∉ subcommands) :
    (parseArguments args = parseArguments ("convert".toList :: args) ↔ commonFirst args = true) ∧
    (commonFirst args = true → ∀ files stdin,
      run files stdin args = run files stdin ("convert".toList :: args)) ∧
    (commonFirst args = false → ∀ files stdin, seen (run files stdin args) = (2, [], files)) := by
  have hparse := parse_bare haccepted hfile
  cases hcommon : commonFirst args with
  | true =>
    rw [hcommon, if_pos rfl] at hparse
    exact ⟨iff_of_true hparse rfl, fun _ files stdin => run_congr hparse, by nofun⟩
  | false =>
    rw [hcommon, if_neg Bool.false_ne_true] at hparse
    refine ⟨iff_of_false (fun h => ?_) Bool.false_ne_true, by nofun,
      fun _ files stdin => seen_run_of_wrong hparse⟩
    rw [hparse, haccepted] at h
    cases h

/-- Common options before the page, its value in the next word or behind an equals sign, and others after
it. -/
theorem bare_form_commonFirst :
    let args := ["-v".toList, "--config".toList, "test".toList, "page.md".toList, "-qoT.feature".toList]
    let r : ConvertRequest := ⟨"page.md".toList, some "T.feature".toList, false, false, false, true⟩
    parseArguments ("convert".toList :: args) = .ok ⟨some "test".toList, .convert r⟩ ∧
    r.file ∉ subcommands ∧
    ∀ files stdin, run files stdin args = run files stdin ("convert".toList :: args) := by
  intro args r
  have haccepted : parseArguments ("convert".toList :: args)
      = .ok ⟨some "test".toList, .convert r⟩ := by decide +kernel
  have hfile : r.file ∉ subcommands := by decide
  exact ⟨haccepted, hfile, (bare_form haccepted hfile).2.1 (by decide +kernel)⟩

/-- **An output before the page** is no option of the program, and its value is taken for the page.  With
the word `convert` the feature is written, without it nothing is. -/
theorem bare_outputFirst :
    let args := ["-o".toList, "T.feature".toList, "page.md".toList]
    let r : ConvertRequest := ⟨"page.md".toList, some "T.feature".toList, false, false, false, false⟩
    let text := "Feature: T\n\nScenario: S\n  Given\n    | a    | b |\n    | long | c |\n".toList
    parseArguments ("convert".toList :: args) = .ok ⟨none, .convert r⟩ ∧
    r.file ∉ subcommands ∧
    (run wishes none ("convert".toList :: args)).1.exit = 0 ∧
    Lookup.read (run wishes none ("convert".toList :: args)).2.find "T.feature".toList = .ok text ∧
    seen (run wishes none args) = (2, [], wishes) := by
  intro args r text
  exact ⟨by decide +kernel, by decide, by decide +kernel, by decide +kernel,
    seen_run_of_wrong (by decide +kernel)⟩

end Scenarist.Command
