/-
  Argument words — options that are written out are read back.

  1. **Writing** — an option is written with its long or its short name, and its value, if it takes
     one, is the next word (`Given.words`).  Options are `Proper` when each is one of those allowed,
     none comes twice, and every value is a word that may be one.

  2. **Reading** — a level takes in the words of proper options one after the other, in whatever
     order they stand, and goes on with the words after them (`readLevel_options`).

  3. **Looking up** — no option comes twice, so its value is the one it was written with
     (`lookup_entries`).  The request of `convert` with any proper options before and behind the
     page follows (`parse_convertWords`).

  4. **Leaving out** — options may be left out of proper ones, and nothing changes for the others.
-/
import Mathlib.Data.List.Nodup
import Scenarist.Command.Arguments

namespace Scenarist.Command

variable {allowed : List Opt} {gs : List Given} {l : Level} {o : Opt}
  {value file : Text}

/-! ## Writing -/

/-- An option as it is written. -/
structure Given where
  /-- The option. -/
  opt : Opt
  /-- Its value; empty if it takes none. -/
  value : Text := []
  /-- Whether its short name is used, if it has one. -/
  short : Bool := false
  deriving DecidableEq, Repr

namespace Given

/-- The word of an option. -/
def word (g : Given) : Text :=
  match g.short, g.opt.short? with
  | true, some c => ['-', c]
  | _, _ => '-' :: '-' :: g.opt.long

/-- The words of an option with its value. -/
def words (g : Given) : List Text := g.word :: if g.opt.takesValue then [g.value] else []

/-- The option with its value, as it is taken in. -/
def entry (g : Given) : Opt × Text := (g.opt, g.value)

/-- Whether an option that goes on with the run has a value that it may have. -/
def IsProper (allowed : List Opt) (g : Given) : Prop :=
  g.opt ∈ allowed ∧ g.opt ≠ .help ∧ g.opt ≠ .version ∧
    if g.opt.takesValue then isValueWord g.value ∧ g.value ≠ [] else g.value = []

instance (allowed : List Opt) (g : Given) : Decidable (g.IsProper allowed) := by
  unfold IsProper
  infer_instance

end Given

/-- Options as they may be written: each is proper and none comes twice. -/
def Proper (allowed : List Opt) (gs : List Given) : Prop :=
  (∀ g ∈ gs, g.IsProper allowed) ∧ (gs.map Given.opt).Nodup

instance (allowed : List Opt) (gs : List Given) : Decidable (Proper allowed gs) :=
  inferInstanceAs (Decidable (_ ∧ _))

/-- The words of a conversion: its name, and the page among options. -/
def convertWords (before : List Given) (file : Text) (after : List Given) : List Text :=
  "convert".toList :: (before.flatMap Given.words ++ file :: after.flatMap Given.words)

/-- Whether an option is among those given. -/
def given (gs : List Given) (o : Opt) : Bool := gs.any fun g => g.opt = o

/-- The value of an option among those given. -/
def valueOf (gs : List Given) (o : Opt) : Option Text :=
  (gs.find? fun g => g.opt = o).map Given.value

/-! ## Names -/

theorem Opt.long_inj : ∀ o p : Opt, p.long = o.long → p = o := by
  intro o p
  cases o <;> cases p <;> decide

theorem Opt.short?_inj : ∀ (o p : Opt) (c : Char), o.short? = some c → p.short? = some c → p = o := by
  intro o p c ho hp
  have h : o.short? = p.short? := ho.trans hp.symm
  have hsome : o.short? ≠ none := by
    rw [ho]
    exact Option.some_ne_none c
  revert hsome h
  clear ho hp
  cases o <;> cases p <;> decide

/-- An option is found by what belongs to it alone. -/
theorem find?_eq_of_unique {p : Opt → Bool} (hmem : o ∈ allowed) (ho : p o = true)
    (hunique : ∀ q, p q = true → q = o) : allowed.find? p = some o := by
  cases hfind : allowed.find? p with
  | none => exact absurd ho (List.find?_eq_none.1 hfind o hmem)
  | some q => rw [hunique q (List.find?_some hfind)]

theorem takeWhile_long (o : Opt) : o.long.takeWhile (· != '=') = o.long := by
  cases o <;> decide

theorem Opt.long_ne_nil (o : Opt) : o.long ≠ [] := by
  cases o <;> decide

/-! ## Reading -/

theorem longOption_long (h : o ∈ allowed) (l : Level) :
    longOption allowed l o.long
      = if o.takesValue then .ok (l, some o) else do return (← l.add o [], none) := by
  have hfind : allowed.find? (fun p => p.long = o.long) = some o := by
    refine find?_eq_of_unique h (decide_eq_true rfl) fun q hq => ?_
    exact Opt.long_inj o q (of_decide_eq_true hq)
  simp only [longOption, takeWhile_long, hfind, List.drop_length]

theorem shortOptions_short {c : Char} (h : o ∈ allowed) (hc : o.short? = some c) (l : Level) :
    shortOptions allowed l [c]
      = if o.takesValue then .ok (l, some o) else do return (← l.add o [], none) := by
  have hfind : allowed.find? (fun p => p.short? = some c) = some o := by
    refine find?_eq_of_unique h (decide_eq_true hc) fun q hq => ?_
    exact Opt.short?_inj o q c hc (of_decide_eq_true hq)
  simp only [shortOptions, hfind]
  rfl

/-- After the word of an option its value comes next, if it takes one. -/
theorem readLevel_word (most : Option Nat) (g : Given) (h : g.opt ∈ allowed) (l : Level)
    (words : List Text) :
    readLevel allowed most none l (g.word :: words)
      = if g.opt.takesValue then readLevel allowed most (some g.opt) l words
        else (do readLevel allowed most none (← l.add g.opt []) words) := by
  have hlong : readLevel allowed most none l (('-' :: '-' :: g.opt.long) :: words)
      = if g.opt.takesValue then readLevel allowed most (some g.opt) l words
        else (do readLevel allowed most none (← l.add g.opt []) words) := by
    rw [readLevel, longOption_long h]
    · cases g.opt.takesValue with
      | true => rfl
      | false =>
        show (l.add g.opt [] >>= _) >>= _ = _
        rw [bind_assoc]
        rfl
    · simpa using Opt.long_ne_nil g.opt
  unfold Given.word
  split
  · next c hshort hc =>
    have hdash : c ≠ '-' := by
      rintro rfl
      revert hc
      cases g.opt <;> decide
    rw [readLevel, shortOptions_short h hc]
    · cases g.opt.takesValue with
      | true => rfl
      | false =>
        show (l.add g.opt [] >>= _) >>= _ = _
        rw [bind_assoc]
        rfl
    · simpa using hdash
    · simpa using hdash
  · exact hlong

theorem add_eq_ok (hhelp : o ≠ .help) (hversion : o ≠ .version)
    (hnew : o ∉ l.options.map Prod.fst) (hvalue : o.takesValue = true → value ≠ []) :
    l.add o value = .ok { l with options := (o, value) :: l.options } := by
  have hhas : l.has o = false := by
    rw [Level.has, List.any_eq_false]
    intro p hp hpo
    refine hnew ?_
    rw [← of_decide_eq_true hpo]
    exact List.mem_map_of_mem hp
  have hempty : (o.takesValue && value.isEmpty && !o.mayBeEmpty) = false := by
    cases ht : o.takesValue with
    | false => rfl
    | true => simp [hvalue ht]
  rw [Level.add, if_neg hhelp, if_neg hversion, hhas, hempty]
  rfl

/-- **One option** is taken in with its value. -/
theorem readLevel_option (most : Option Nat) (words : List Text) {g : Given}
    (hg : g.IsProper allowed) (hnew : g.opt ∉ l.options.map Prod.fst) :
    readLevel allowed most none l (g.words ++ words)
      = readLevel allowed most none { l with options := g.entry :: l.options } words := by
  obtain ⟨hallowed, hhelp, hversion, hvalue⟩ := hg
  rw [Given.words, List.cons_append, readLevel_word most g hallowed]
  cases ht : g.opt.takesValue with
  | true =>
    rw [ht, if_pos rfl] at hvalue
    rw [if_pos rfl, if_pos rfl, List.singleton_append, readLevel, if_pos hvalue.1,
      add_eq_ok hhelp hversion hnew fun _ => hvalue.2]
    rfl
  | false =>
    rw [ht, if_neg Bool.false_ne_true] at hvalue
    have hentry : g.entry = (g.opt, []) := by rw [Given.entry, hvalue]
    rw [if_neg Bool.false_ne_true, if_neg Bool.false_ne_true, List.nil_append, hentry,
      add_eq_ok hhelp hversion hnew (by rw [ht]; nofun)]
    rfl

/-- **All options** are taken in, the last one in front. -/
theorem readLevel_options (most : Option Nat) (words : List Text) (gs : List Given) :
    ∀ l : Level, (∀ g ∈ gs, g.IsProper allowed) →
      (l.options.map Prod.fst ++ gs.map Given.opt).Nodup →
      readLevel allowed most none l (gs.flatMap Given.words ++ words)
        = readLevel allowed most none
            { l with options := (gs.map Given.entry).reverse ++ l.options } words := by
  induction gs with
  | nil =>
    intro l _ _
    rfl
  | cons g gs ih =>
    intro l hgs hdistinct
    rw [List.map_cons] at hdistinct
    obtain ⟨hnew, -⟩ := List.nodup_cons.1 (List.nodup_middle.1 hdistinct)
    have hnew : g.opt ∉ l.options.map Prod.fst := fun h => hnew (List.mem_append_left _ h)
    rw [List.flatMap_cons, List.append_assoc,
      readLevel_option most _ (hgs g (List.mem_cons_self ..)) hnew, ih]
    · rw [List.map_cons, List.reverse_cons, List.append_assoc]
      rfl
    · exact fun h hh => hgs h (List.mem_cons_of_mem g hh)
    · exact List.nodup_middle.1 hdistinct

/-! ## Looking up -/

theorem has_entries (gs : List Given) (operands : List Text) (o : Opt) :
    Level.has ⟨(gs.map Given.entry).reverse, operands⟩ o = given gs o := by
  rw [Level.has, List.any_reverse, List.any_map]
  rfl

theorem valueOf_cons (g : Given) (gs : List Given) (o : Opt) :
    valueOf (g :: gs) o = if g.opt = o then some g.value else valueOf gs o := by
  rw [valueOf, List.find?_cons]
  by_cases h : g.opt = o
  · rw [if_pos h, decide_eq_true h]
    rfl
  · rw [if_neg h, decide_eq_false h]
    rfl

theorem valueOf_eq_none (h : o ∉ gs.map Given.opt) : valueOf gs o = none := by
  rw [valueOf, Option.map_eq_none_iff, List.find?_eq_none]
  intro g hg ho
  rw [← of_decide_eq_true ho] at h
  exact h (List.mem_map_of_mem hg)

/-- No option comes twice, so it does not matter from which end its value is looked up. -/
theorem lookup_entries (o : Opt) (gs : List Given) :
    (gs.map Given.opt).Nodup → (gs.map Given.entry).reverse.lookup o = valueOf gs o := by
  induction gs with
  | nil =>
    intro _
    rfl
  | cons g gs ih =>
    intro hdistinct
    rw [List.map_cons] at hdistinct
    obtain ⟨hnew, hdistinct⟩ := List.nodup_cons.1 hdistinct
    rw [List.map_cons, List.reverse_cons, List.lookup_append, ih hdistinct, valueOf_cons]
    by_cases h : g.opt = o
    · subst h
      rw [valueOf_eq_none hnew, Option.none_or, if_pos rfl]
      exact List.lookup_cons_self
    · have hother : [g.entry].lookup o = none := by
        rw [List.lookup_eq_none_iff]
        intro e he
        rw [List.mem_singleton.1 he]
        simpa [Given.entry] using Ne.symm h
      rw [hother, Option.or_none, if_neg h]

/-! ## Conversions -/

/-- What a conversion of a page is asked for by options. -/
def convertRequest (gs : List Given) (file : Text) : ConvertRequest where
  file
  output := valueOf gs .output
  check := given gs .check
  outline := given gs .outline
  noAlign := given gs .noAlign
  quiet := given gs .quiet

/-- The level of a conversion with its options and its page. -/
theorem readLevel_conversion {before after : List Given}
    (hproper : Proper Opt.ofConvert (before ++ after)) (hfile : isValueWord file = true) :
    readLevel Opt.ofConvert (some 1) none {}
        (before.flatMap Given.words ++ file :: after.flatMap Given.words)
      = .ok (⟨((before ++ after).map Given.entry).reverse, [file]⟩, []) := by
  obtain ⟨hgs, hdistinct⟩ := hproper
  rw [List.map_append] at hdistinct
  have hbefore : ∀ g ∈ before, g.IsProper Opt.ofConvert :=
    fun g hg => hgs g (List.mem_append_left after hg)
  have hafter : ∀ g ∈ after, g.IsProper Opt.ofConvert :=
    fun g hg => hgs g (List.mem_append_right before hg)
  have hpage : ∀ (options : List (Opt × Text)) (words : List Text),
      readLevel Opt.ofConvert (some 1) none ⟨options, []⟩ (file :: words)
        = readLevel Opt.ofConvert (some 1) none ⟨options, [file]⟩ words := by
    intro options words
    -- the page does not look like options: it is a dash or does not start with one
    rw [isValueWord, Bool.or_eq_true, decide_eq_true_iff, decide_eq_true_iff] at hfile
    rw [readLevel]
    · exact if_pos Nat.zero_lt_one
    · rintro rfl
      simp at hfile
    · rintro name rfl
      simp at hfile
    · rintro c cs rfl
      simp at hfile
  have hfront := readLevel_options (some 1) (file :: after.flatMap Given.words) before {} hbefore
    (List.nodup_append.1 hdistinct).1
  have hback := readLevel_options (some 1) [] after ⟨(before.map Given.entry).reverse, [file]⟩
    hafter (by
      rw [List.map_reverse, List.map_map]
      exact ((List.reverse_perm _).append_right _).nodup_iff.2 hdistinct)
  rw [hfront]
  show readLevel _ _ none ⟨(before.map Given.entry).reverse ++ [], []⟩ _ = _
  rw [List.append_nil, hpage]
  rw [List.append_nil] at hback
  rw [hback, List.map_append, List.reverse_append]
  rfl

/-- **A conversion is understood**, whatever options stand before and behind the page. -/
theorem parse_convertWords {before after : List Given}
    (hproper : Proper Opt.ofConvert (before ++ after)) (hfile : isValueWord file = true) :
    parseArguments (convertWords before file after)
      = .ok ⟨valueOf (before ++ after) .config, .convert (convertRequest (before ++ after) file)⟩ := by
  have hname : withSubcommand (convertWords before file after)
      = convertWords before file after := by
    rw [convertWords, withSubcommand.eq_def]
    rfl
  have houter : readLevel Opt.ofProgram none none {} (convertWords before file after)
      = .ok ({}, convertWords before file after) := rfl
  rw [parseArguments, hname]
  unfold readRequest
  rw [houter]
  show (readLevel Opt.ofConvert (some 1) none {}
      (before.flatMap Given.words ++ file :: after.flatMap Given.words) >>= fun inner =>
    inner.1.convert >>= fun task =>
      pure (⟨(inner.1.value? .config).or none, task⟩ : Request)) = _
  rw [readLevel_conversion hproper hfile]
  set gs := before ++ after
  have hvalue : ∀ o, Level.value? ⟨(gs.map Given.entry).reverse, [file]⟩ o = valueOf gs o :=
    fun o => lookup_entries o gs hproper.2
  have hhas : ∀ o, Level.has ⟨(gs.map Given.entry).reverse, [file]⟩ o = given gs o :=
    fun o => has_entries gs [file] o
  show (Level.convert ⟨(gs.map Given.entry).reverse, [file]⟩ >>= fun task =>
      pure (⟨(Level.value? ⟨(gs.map Given.entry).reverse, [file]⟩ .config).or none, task⟩ : Request))
    = _
  rw [hvalue, Option.or_none, Level.convert]
  simp only [hvalue, hhas]
  rfl

/-! ## Leaving out -/

theorem Proper.filter (h : Proper allowed gs) (p : Given → Bool) :
    Proper allowed (gs.filter p) := by
  obtain ⟨hgs, hdistinct⟩ := h
  constructor
  · intro g hg
    exact hgs g (List.mem_of_mem_filter hg)
  · exact ((List.filter_sublist).map Given.opt).nodup hdistinct

theorem given_filter {p : Given → Bool} (hp : ∀ g, g.opt = o → p g = true) (gs : List Given) :
    given (gs.filter p) o = given gs o := by
  rw [given, given, List.any_filter]
  congr 1
  funext g
  by_cases h : g.opt = o
  · rw [hp g h, Bool.true_and]
  · rw [decide_eq_false h, Bool.and_false]

theorem valueOf_filter {p : Given → Bool} (hp : ∀ g, g.opt = o → p g = true) (gs : List Given) :
    valueOf (gs.filter p) o = valueOf gs o := by
  rw [valueOf, valueOf, List.find?_filter]
  congr 2
  funext g
  by_cases h : g.opt = o
  · simp [hp g h]
  · simp [h]

end Scenarist.Command
