/-
  Skipping — what is passed over leaves its range among the omissions, and nothing else.

  1. **Portions** — the events that a reader takes are looked at one by one, but for the groups that
     are passed over whole.  Portions are `Alike` if they differ only in what such groups hold.

  2. **Steady readers** — a reader is `Steady` if it takes the same from portions that are alike,
     whatever follows them.  It may look at the next event and leave it.  One reader after another is
     steady if both are (`Steady.andThen`), so each reader of the library is by its own recursion.

  3. **Order** — the portions of a page are its events, so the groups that are passed over stand in
     order and apart if all groups do (`omissions_in_order`).
-/
import Mathlib.Data.List.Forall2
import Scenarist.Proofs.Markdown.Ranges
import Scenarist.Proofs.Page.LineReading

namespace Scenarist.Reading

open Markdown (Span Tag TagEnd Event Located EventTree around treeEvents groupSpans InOrder
  OpensGroup)

/-! ## Portions -/

/-- A portion of the events of a page. -/
inductive Portion where
  /-- An event that is looked at. -/
  | taken (event : Located)
  /-- A group that is passed over. -/
  | skipped (tag : Tag) (span : Span) (inner : List EventTree)

namespace Portion

/-- The events of a portion. -/
def events : Portion → List Located
  | .taken event => [event]
  | .skipped tag span inner => around tag span (treeEvents inner)

/-- What a portion leaves out. -/
def omission? (file : Nat) : Portion → Option Omission
  | .taken _ => none
  | .skipped tag span _ => some (omission file tag span)

/-- Whether two portions differ at most in what the group holds that is passed over. -/
def Alike : Portion → Portion → Prop
  | .taken e, .taken f => e = f
  | .skipped tag span _, .skipped tag' span' _ => tag = tag' ∧ span = span'
  | _, _ => False

theorem Alike.refl : ∀ p : Portion, p.Alike p
  | .taken _ => rfl
  | .skipped _ _ _ => ⟨rfl, rfl⟩

end Portion

/-- The events of portions. -/
def spellOut (ps : List Portion) : List Located := ps.flatMap Portion.events

/-- What portions leave out. -/
def omitted (file : Nat) (ps : List Portion) : List Omission := ps.filterMap (Portion.omission? file)

/-- Whether portions differ only in what the groups hold that are passed over. -/
abbrev AllAlike : List Portion → List Portion → Prop := List.Forall₂ Portion.Alike

variable {file : Nat} {α β : Type} {om : List Omission} {es rest : List Located}
  {ps qs : List Portion}

theorem AllAlike.refl (ps : List Portion) : AllAlike ps ps :=
  List.forall₂_same.2 fun p _ => Portion.Alike.refl p

theorem spellOut_append (ps qs : List Portion) : spellOut (ps ++ qs) = spellOut ps ++ spellOut qs :=
  List.flatMap_append

theorem omitted_append (file : Nat) (ps qs : List Portion) :
    omitted file (ps ++ qs) = omitted file ps ++ omitted file qs := List.filterMap_append

/-- Portions that are alike start with the same event. -/
theorem head?_spellOut {rest' : List Located} (h : AllAlike ps qs) (hrest : rest'.head? = rest.head?) :
    (spellOut qs ++ rest').head? = (spellOut ps ++ rest).head? := by
  cases h with
  | nil => exact hrest
  | @cons p q ps qs hpq _ =>
    cases p with
    | taken e =>
      cases q with
      | taken f =>
        obtain rfl : e = f := hpq
        rfl
      | skipped tag span inner => cases hpq
    | skipped tag span inner =>
      cases q with
      | taken f => cases hpq
      | skipped tag' span' inner' =>
        obtain ⟨rfl, rfl⟩ := hpq
        rfl

theorem spellOut_cons_ne_nil (p : Portion) (ps : List Portion) : spellOut (p :: ps) ≠ [] := by
  intro h
  cases p with
  | taken e => cases h
  | skipped tag span inner => cases h

/-! ## Steady readers -/

/-- A reader gives what it has read, what was left out up to there, and what follows. -/
abbrev Reader (α : Type) : Type := List Located → α × List Omission × List Located

/-- Whether a reader takes portions off the front of some events, takes the same from any that are
alike and that the same event follows, and puts what the portions leave out to the omissions `om`. -/
def Steady (file : Nat) (om : List Omission) (r : Reader α) (es : List Located) : Prop :=
  ∃ (a : α) (ps : List Portion) (rest : List Located), es = spellOut ps ++ rest ∧
    ∀ ps', AllAlike ps ps' → ∀ rest', rest'.head? = rest.head? →
      r (spellOut ps' ++ rest') = (a, om ++ omitted file ps, rest')

/-- A reader that another one goes on after. -/
def Reader.andThen (r : Reader α) (f : α → List Omission → Reader β) : Reader β :=
  fun es => f (r es).1 (r es).2.1 (r es).2.2

/-- A reader that puts what it leaves out to omissions from before. -/
def Reader.behind (om : List Omission) (r : Reader α) : Reader α :=
  fun es => ((r es).1, om ++ (r es).2.1, (r es).2.2)

namespace Steady

variable {r r' : Reader α}

/-- **One reader after another** is steady if both are. -/
theorem andThen {f : α → List Omission → Reader β} (h : Steady file om r es)
    (hf : (r es).2.2 <:+ es → Steady file (r es).2.1 (f (r es).1 (r es).2.1) (r es).2.2) :
    Steady file om (r.andThen f) es := by
  obtain ⟨a, ps, rest, hes, hr⟩ := h
  have hself : r es = (a, om ++ omitted file ps, rest) := by
    rw [hes]
    exact hr ps (AllAlike.refl ps) rest rfl
  rw [hself] at hf
  obtain ⟨b, qs, rest₂, hrest, hf⟩ := hf ⟨spellOut ps, hes.symm⟩
  refine ⟨b, ps ++ qs, rest₂, ?_, fun ps' halike rest' hhead => ?_⟩
  · rw [spellOut_append, List.append_assoc, ← hrest]
    exact hes
  · obtain ⟨ps₁, qs₁, hps, hqs, rfl⟩ : ∃ ps₁ qs₁, AllAlike ps ps₁ ∧ AllAlike qs qs₁ ∧
        ps' = ps₁ ++ qs₁ := by
      refine ⟨ps'.take ps.length, ps'.drop ps.length, ?_, ?_, (List.take_append_drop ..).symm⟩
      · exact (List.forall₂_take_append ps' ps qs halike.flip).flip
      · exact (List.forall₂_drop_append ps' ps qs halike.flip).flip
    have hnext : (spellOut qs₁ ++ rest').head? = rest.head? := by
      rw [head?_spellOut hqs hhead, ← hrest]
    rw [spellOut_append, List.append_assoc, Reader.andThen, hr ps₁ hps _ hnext]
    show f a (om ++ omitted file ps) (spellOut qs₁ ++ rest') = _
    rw [hf qs₁ hqs rest' hhead, omitted_append, List.append_assoc]

/-- A reader that does the same with events that start alike is steady as well. -/
theorem congr (h : Steady file om r' es) (hr : ∀ fs, fs.head? = es.head? → r fs = r' fs) :
    Steady file om r es := by
  obtain ⟨a, ps, rest, hes, hr'⟩ := h
  refine ⟨a, ps, rest, hes, fun ps' halike rest' hhead => ?_⟩
  have hsame : (spellOut ps' ++ rest').head? = es.head? := by
    rw [head?_spellOut halike hhead, ← hes]
  rw [hr _ hsame]
  exact hr' ps' halike rest' hhead

/-- A reader that takes nothing is steady. -/
theorem stop (a : α) (h : ∀ fs, fs.head? = es.head? → r fs = (a, om, fs)) : Steady file om r es := by
  refine ⟨a, [], es, rfl, fun ps' halike rest' hhead => ?_⟩
  cases halike
  rw [omitted, List.filterMap_nil, List.append_nil]
  exact h rest' hhead

/-- A reader that looks at one event and goes on is steady if it goes on so. -/
theorem next {e : Located} (h : Steady file om r' es) (hr : ∀ fs, r (e :: fs) = r' fs) :
    Steady file om r (e :: es) := by
  obtain ⟨a, ps, rest, hes, hr'⟩ := h
  refine ⟨a, .taken e :: ps, rest, ?_, fun ps' halike rest' hhead => ?_⟩
  · rw [hes]
    rfl
  · obtain ⟨q, qs, hq, hqs, rfl⟩ := List.forall₂_cons_left_iff.1 halike
    cases q with
    | taken f =>
      obtain rfl : e = f := hq
      show r (e :: (spellOut qs ++ rest')) = _
      rw [hr, hr' qs hqs rest' hhead]
      rfl
    | skipped tag span inner => cases hq

/-- A reader that looks at one event and takes no more is steady. -/
theorem last {e : Located} (a : α) (hr : ∀ fs, r (e :: fs) = (a, om, fs)) :
    Steady file om r (e :: es) := by
  have hdone : Steady file om (fun fs => (a, om, fs)) es := .stop a fun fs _ => rfl
  exact hdone.next hr

/-- Omissions from before do not matter to a steady reader. -/
theorem behind (h : Steady file [] r es) (om : List Omission) :
    Steady file om (r.behind om) es := by
  obtain ⟨a, ps, rest, hes, hr⟩ := h
  refine ⟨a, ps, rest, hes, fun ps' halike rest' hhead => ?_⟩
  rw [Reader.behind, hr ps' halike rest' hhead]
  rfl

/-- A reader that passes over one group and goes on is steady if it goes on so. -/
theorem skip {outer span : Span} {tag : Tag} (hopens : OpensGroup outer tag span es)
    (h : Steady file (om ++ [omission file tag span]) r' (Reading.skip 0 ((.start tag, span) :: es)))
    (hr : ∀ fs, r ((.start tag, span) :: fs) = r' (Reading.skip 0 ((.start tag, span) :: fs))) :
    Steady file om r ((.start tag, span) :: es) := by
  obtain ⟨inner, after, hgroup, -, -⟩ := hopens
  rw [hgroup, skip_around] at h
  obtain ⟨a, ps, rest, hafter, hr'⟩ := h
  refine ⟨a, .skipped tag span inner :: ps, rest, ?_, fun ps' halike rest' hhead => ?_⟩
  · rw [hgroup, hafter, ← List.append_assoc]
    rfl
  · obtain ⟨q, qs, hq, hqs, rfl⟩ := List.forall₂_cons_left_iff.1 halike
    cases q with
    | taken f => cases hq
    | skipped tag' span' inner' =>
      obtain ⟨rfl, rfl⟩ := hq
      have hspell : spellOut (.skipped tag span inner' :: qs) ++ rest'
          = around tag span (treeEvents inner') ++ (spellOut qs ++ rest') := by
        rw [← List.append_assoc]
        rfl
      rw [hspell, around_append, hr, ← around_append, skip_around, hr' qs hqs rest' hhead]
      show _ = (a, om ++ (omission file tag span :: omitted file ps), rest')
      rw [List.append_assoc]
      rfl

end Steady

/-! ## Lines of text -/

/-- A reader that leaves nothing out. -/
def silent (om : List Omission) (r : List Located → α × List Located) : Reader α :=
  fun es => ((r es).1, om, (r es).2)

theorem of_silent_eq {r : List Located → α × List Located} {a : α} {om' : List Omission}
    (h : silent om r es = (a, om', rest)) : r es = (a, rest) ∧ om = om' := by
  have htext : (r es).1 = a := congrArg Prod.fst h
  have hrest : (r es).2 = rest := congrArg (fun p => p.2.2) h
  exact ⟨Prod.ext htext hrest, congrArg (fun p => p.2.1) h⟩

theorem steady_inlineText (style : LinkStyle) (es : List Located) :
    ∀ links text, Steady file om (silent om (inlineText style links text)) es := by
  induction es with
  | nil =>
    intro links text
    refine .stop (links.foldl (OpenLink.close style) text) fun fs hfs => ?_
    rw [List.head?_eq_none_iff.1 hfs]
    rfl
  | cons e es ih =>
    intro links text
    obtain ⟨e, s⟩ := e
    have hnext : ∀ links' text', (∀ fs, inlineText style links text ((e, s) :: fs)
          = inlineText style links' text' fs) →
        Steady file om (silent om (inlineText style links text)) ((e, s) :: es) := by
      intro links' text' h
      refine (ih links' text').next fun fs => ?_
      rw [silent, h]
      rfl
    have hstop : ∀ text', (∀ fs, inlineText style links text ((e, s) :: fs)
          = (text', (e, s) :: fs)) →
        Steady file om (silent om (inlineText style links text)) ((e, s) :: es) := by
      intro text' h
      refine .stop text' fun fs hfs => ?_
      obtain ⟨fs, rfl⟩ := List.head?_eq_some_iff.1 hfs
      rw [silent, h]
    cases e with
    | start tag => cases tag <;> first | exact hnext _ _ fun fs => rfl | exact hstop _ fun fs => rfl
    | finish tag =>
      cases tag with
      | link =>
        cases links with
        | nil => exact hstop _ fun fs => rfl
        | cons l links => exact hnext _ _ fun fs => rfl
      | _ => first | exact hnext _ _ fun fs => rfl | exact hstop _ fun fs => rfl
    | _ => first | exact hnext _ _ fun fs => rfl | exact hstop _ fun fs => rfl

theorem steady_skipPast (tag : TagEnd) (a : α) (es : List Located) :
    Steady file om (silent om fun es => (a, skipPast tag es)) es := by
  induction es with
  | nil =>
    refine .stop a fun fs hfs => ?_
    rw [List.head?_eq_none_iff.1 hfs]
    rfl
  | cons e es ih =>
    obtain ⟨e, s⟩ := e
    by_cases h : e = .finish tag
    · refine .last a fun fs => ?_
      rw [silent, skipPast, if_pos h]
    · refine ih.next fun fs => ?_
      rw [silent, skipPast, if_neg h]
      rfl

theorem steady_leafText (style : LinkStyle) (tag : TagEnd) (es : List Located) :
    Steady file om (silent om (leafText style tag)) es :=
  (steady_inlineText style es [] []).andThen
    (f := fun text om => silent om fun es => (text, skipPast tag es))
    fun _ => steady_skipPast tag _ _

/-- The text of an item takes one event if the line takes none. -/
theorem steady_runText (e : Located) (es : List Located) :
    Steady file om (silent om runText) (e :: es) := by
  have hsteady : Steady file om (silent om (inlineText .label [] [])) (e :: es) :=
    steady_inlineText .label (e :: es) [] []
  obtain ⟨text, ps, rest, hes, hline⟩ := hsteady
  cases ps with
  | nil =>
    have hnone : ∀ fs, inlineText .label [] [] (e :: fs) = (text, e :: fs) := by
      intro fs
      have hhead : (e :: fs).head? = rest.head? := by
        rw [← show e :: es = rest from hes]
        rfl
      exact (of_silent_eq (hline [] .nil (e :: fs) hhead)).1
    refine .last text fun fs => ?_
    simp only [silent, runText, hnone]
    rfl
  | cons p ps =>
    refine ⟨text, p :: ps, rest, hes, fun ps' halike rest' hhead => ?_⟩
    obtain ⟨hread, homitted⟩ := of_silent_eq (hline ps' halike rest' hhead)
    have hlen : rest'.length ≠ (spellOut ps' ++ rest').length := by
      obtain ⟨q, qs, -, -, rfl⟩ := List.forall₂_cons_left_iff.1 halike
      have hpos := List.length_pos_iff.2 (spellOut_cons_ne_nil q qs)
      rw [List.length_append]
      omega
    rw [← homitted]
    simp only [silent, runText, hread, if_neg hlen]

/-! ## Tables -/

theorem steady_tableRows (rows : List (List Text)) (row : List Text) (es : List Located) :
    Steady file om (silent om (tableRows rows row)) es := by
  fun_induction tableRows rows row es with
  | case1 rows row =>
    refine .stop rows.reverse fun fs hfs => ?_
    rw [List.head?_eq_none_iff.1 hfs, silent, tableRows]
  | case2 rows row s es =>
    refine .last rows.reverse fun fs => ?_
    rw [silent, tableRows]
  | case3 rows row s es ih =>
    rw [List.unattach_reverse, List.unattach_attach] at ih
    refine ih.next fun fs => ?_
    rw [silent, tableRows]
    rfl
  | case4 rows row s es ih =>
    rw [List.unattach_reverse, List.unattach_attach] at ih
    refine ih.next fun fs => ?_
    rw [silent, tableRows]
    rfl
  | case5 rows row s es cell _ ih =>
    have hcell : Steady file om ((silent om (leafText .label .tableCell)).andThen
        fun text om => silent om (tableRows rows (Text.trim text :: row))) es :=
      (steady_leafText .label .tableCell es).andThen fun _ => ih
    refine hcell.next fun fs => ?_
    rw [silent, tableRows]
    rfl
  | case6 rows row e s es _ _ _ _ ih =>
    refine ih.next fun fs => ?_
    rw [silent, tableRows]
    · rfl
    all_goals assumption

/-! ## Lists and quotes -/

/-- What is passed over stands in front of the rest. -/
theorem skip_suffix (depth : Nat) (es : List Located) : skip depth es <:+ es := by
  induction es generalizing depth with
  | nil => exact List.suffix_refl []
  | cons e es ih =>
    rw [skip]
    split
    · exact List.suffix_cons e es
    · exact (ih _).trans (List.suffix_cons e es)

section Groups

variable {outer : Span} {ts : List EventTree}

theorem suffix_of_cons {e : Located} (h : e :: es <:+ treeEvents ts) : es <:+ treeEvents ts :=
  (List.suffix_cons e es).trans h

theorem opensGroup_of_suffix {tag : Tag} {s : Span} (hts : InOrder outer ts)
    (h : (.start tag, s) :: es <:+ treeEvents ts) : OpensGroup outer tag s es := by
  obtain ⟨front, hfront⟩ := h
  exact Markdown.opensGroup_trees outer ts front es hts hfront.symm

/-- The reader of a list. -/
def listReader (file : Nat) (stack : List Open) (blocks : List Block) (om : List Omission) :
    Reader (List Block) := fun es =>
  let found := bullets file stack blocks om es
  (found.blocks, found.omissions, found.rest)

theorem steady_bullets (hts : InOrder outer ts) (stack : List Open) (blocks : List Block)
    (om : List Omission) (es : List Located) :
    es <:+ treeEvents ts → Steady file om (listReader file stack blocks om) es := by
  -- One case for each arm of the reader.  Most look at one event and go on; the text of an item is
  -- read first where there is some, and a group that is no list is passed over.
  fun_induction bullets file stack blocks om es with
  | case1 stack blocks om =>
    intro _
    refine .stop (closeAll blocks stack) fun fs hfs => ?_
    rw [List.head?_eq_none_iff.1 hfs, listReader, bullets]
  | case2 blocks om e s es =>
    intro _
    refine .stop blocks fun fs hfs => ?_
    obtain ⟨fs, rfl⟩ := List.head?_eq_some_iff.1 hfs
    rw [listReader, bullets]
  | case3 blocks om s es below ih =>
    intro hes
    refine (ih (suffix_of_cons hes)).next fun fs => ?_
    rw [listReader, bullets]
    rfl
  | case4 blocks om s es below ih =>
    intro hes
    refine (ih (suffix_of_cons hes)).next fun fs => ?_
    rw [listReader, bullets]
    rfl
  | case5 blocks om e s es below hfinish hitem ih =>
    intro hes
    refine (ih (suffix_of_cons hes)).next fun fs => ?_
    rw [listReader, bullets]
    · rfl
    · exact hfinish
    · exact hitem
  | case6 blocks om s es before text below ih =>
    intro hes
    refine (ih (suffix_of_cons hes)).next fun fs => ?_
    rw [listReader, bullets]
    rfl
  | case7 blocks om s es before text below run _ ih =>
    intro hes
    have hrun : Steady file om ((silent om (leafText .label .paragraph)).andThen fun run om =>
        listReader file (.item before (joinRun text run) :: below) blocks om) es :=
      (steady_leafText .label .paragraph es).andThen fun hrest =>
        ih (hrest.trans (suffix_of_cons hes))
    refine hrun.next fun fs => ?_
    rw [listReader, bullets]
    rfl
  | case8 blocks om s es before text below ih =>
    intro hes
    refine (ih (suffix_of_cons hes)).next fun fs => ?_
    rw [listReader, bullets]
    rfl
  | case9 blocks om s es before text below tag hparagraph hlist hline run _ ih =>
    intro hes
    have hrun : Steady file om ((silent om runText).andThen fun run om =>
        listReader file (.item before (joinRun text run) :: below) blocks om)
          ((.start tag, s) :: es) :=
      (steady_runText _ es).andThen fun hrest => ih (hrest.trans hes)
    refine hrun.congr fun fs hfs => ?_
    obtain ⟨fs, rfl⟩ := List.head?_eq_some_iff.1 hfs
    rw [listReader, bullets, if_pos hline]
    · rfl
    · exact hparagraph
    · exact hlist
  | case10 blocks om s es before text below tag hparagraph hlist hline _ ih =>
    intro hes
    refine .skip (opensGroup_of_suffix hts hes) (ih ((skip_suffix 0 _).trans hes)) fun fs => ?_
    rw [listReader, bullets, if_neg hline]
    · rfl
    · exact hparagraph
    · exact hlist
  | case11 blocks om e s es before text below run _ hfinish hparagraph hlist hstart ih =>
    intro hes
    have hrun : Steady file om ((silent om runText).andThen fun run om =>
        listReader file (.item before (joinRun text run) :: below) blocks om) ((e, s) :: es) :=
      (steady_runText _ es).andThen fun hrest => ih (hrest.trans hes)
    refine hrun.congr fun fs hfs => ?_
    obtain ⟨fs, rfl⟩ := List.head?_eq_some_iff.1 hfs
    rw [listReader, bullets]
    · rfl
    · exact hfinish
    · exact hparagraph
    · exact hlist
    · exact hstart

/-- The reader of a quote. -/
def quoteReader (file : Nat) (stack : List OpenGroup) (nodes : List RichNode)
    (om : List Omission) : Reader (List RichNode) := fun es =>
  let found := quoteNodes file stack nodes om es
  (found.nodes, found.omissions, found.rest)

theorem steady_quoteNodes (hts : InOrder outer ts) (stack : List OpenGroup)
    (nodes : List RichNode) (om : List Omission) (es : List Located) :
    es <:+ treeEvents ts → Steady file om (quoteReader file stack nodes om) es := by
  -- One case for each arm again: only `case8` passes over a group, and only `case9` ends the quote.
  fun_induction quoteNodes file stack nodes om es with
  | case1 stack nodes om =>
    intro _
    refine .stop (stack.foldl (fun nodes g => g.before ++ [endNode g.ends nodes]) nodes)
      fun fs hfs => ?_
    rw [List.head?_eq_none_iff.1 hfs, quoteReader, quoteNodes]
  | case2 stack nodes om s es t ih =>
    intro hes
    refine (ih (suffix_of_cons hes)).next fun fs => ?_
    rw [quoteReader, quoteNodes]
    rfl
  | case3 stack nodes om s es t ih =>
    intro hes
    refine (ih (suffix_of_cons hes)).next fun fs => ?_
    rw [quoteReader, quoteNodes]
    rfl
  | case4 stack nodes om s es ih =>
    intro hes
    refine (ih (suffix_of_cons hes)).next fun fs => ?_
    rw [quoteReader, quoteNodes]
    rfl
  | case5 stack nodes om s es ih =>
    intro hes
    refine (ih (suffix_of_cons hes)).next fun fs => ?_
    rw [quoteReader, quoteNodes]
    rfl
  | case6 stack nodes om s es start ih =>
    intro hes
    refine (ih (suffix_of_cons hes)).next fun fs => ?_
    rw [quoteReader, quoteNodes]
    rfl
  | case7 stack nodes om s es tag hlist hgroup ih =>
    intro hes
    refine (ih (suffix_of_cons hes)).next fun fs => ?_
    rw [quoteReader, quoteNodes, if_pos hgroup]
    · rfl
    · exact hlist
  | case8 stack nodes om s es tag hlist hgroup _ ih =>
    intro hes
    refine .skip (opensGroup_of_suffix hts hes) (ih ((skip_suffix 0 _).trans hes)) fun fs => ?_
    rw [quoteReader, quoteNodes, if_neg hgroup]
    · rfl
    · exact hlist
  | case9 nodes om s es =>
    intro _
    refine .last nodes fun fs => ?_
    rw [quoteReader, quoteNodes, if_pos rfl]
  | case10 nodes om s es tag hquote ih =>
    intro hes
    refine (ih (suffix_of_cons hes)).next fun fs => ?_
    rw [quoteReader, quoteNodes, if_neg hquote]
    rfl
  | case11 nodes om s es g below ih =>
    intro hes
    refine (ih (suffix_of_cons hes)).next fun fs => ?_
    rw [quoteReader, quoteNodes, if_pos rfl]
    rfl
  | case12 nodes om s es tag g below hends ih =>
    intro hes
    refine (ih (suffix_of_cons hes)).next fun fs => ?_
    rw [quoteReader, quoteNodes, if_neg hends]
    rfl
  | case13 stack nodes om e s es htext hcode hsoft hhard hlist hstart hfinish ih =>
    intro hes
    refine (ih (suffix_of_cons hes)).next fun fs => ?_
    rw [quoteReader, quoteNodes]
    · rfl
    all_goals assumption

/-! ## Pages -/

/-- The reader of a page; it leaves nothing. -/
def pageReader (file : Nat) (page : Page) : Reader (List Block) := fun es =>
  let found := Page.readEvents file page es
  (found.blocks, found.omissions, [])

theorem steady_readEvents (hts : InOrder outer ts) (page : Page) (es : List Located) :
    es <:+ treeEvents ts → Steady file page.omissions (pageReader file page) es := by
  -- Each kind of block has a reader of its own, after which the page is read on (`andThen`).
  fun_induction Page.readEvents file page es with
  | case1 page =>
    intro _
    refine .stop page.blocks fun fs hfs => ?_
    rw [List.head?_eq_none_iff.1 hfs, pageReader, Page.readEvents]
  | case2 page s es level found _ ih =>
    intro hes
    have hfound : Steady file page.omissions
        ((silent page.omissions (leafText .label .heading)).andThen fun text om =>
          pageReader file ⟨page.blocks ++ [.heading level text], om⟩) es :=
      (steady_leafText .label .heading es).andThen fun hrest =>
        ih (hrest.trans (suffix_of_cons hes))
    refine hfound.next fun fs => ?_
    rw [pageReader, Page.readEvents]
    rfl
  | case3 page s es found _ ih =>
    intro hes
    have hfound : Steady file page.omissions
        ((silent page.omissions (leafText .markup .paragraph)).andThen fun text om =>
          pageReader file ⟨page.blocks ++ [.paragraph text], om⟩) es :=
      (steady_leafText .markup .paragraph es).andThen fun hrest =>
        ih (hrest.trans (suffix_of_cons hes))
    refine hfound.next fun fs => ?_
    rw [pageReader, Page.readEvents]
    rfl
  | case4 page s es found _ ih =>
    intro hes
    have hfound : Steady file page.omissions
        (((quoteReader file [] [] []).behind page.omissions).andThen fun nodes om =>
          pageReader file ⟨page.blocks ++ [.quote nodes], om⟩) es :=
      ((steady_quoteNodes hts [] [] [] es (suffix_of_cons hes)).behind _).andThen fun hrest =>
        ih (hrest.trans (suffix_of_cons hes))
    refine hfound.next fun fs => ?_
    rw [pageReader, Page.readEvents]
    rfl
  | case5 page s es found _ ih =>
    intro hes
    have hfound : Steady file page.omissions
        (((listReader file [.list] [] []).behind page.omissions).andThen fun blocks om =>
          pageReader file ⟨page.blocks ++ blocks, om⟩) es :=
      ((steady_bullets hts [.list] [] [] es (suffix_of_cons hes)).behind _).andThen fun hrest =>
        ih (hrest.trans (suffix_of_cons hes))
    refine hfound.next fun fs => ?_
    rw [pageReader, Page.readEvents]
    rfl
  | case6 page s es found _ ih =>
    intro hes
    have hfound : Steady file page.omissions
        ((silent page.omissions (tableRows [] [])).andThen fun rows om =>
          pageReader file ⟨page.blocks ++ [.table rows], om⟩) es :=
      (steady_tableRows [] [] es).andThen fun hrest => ih (hrest.trans (suffix_of_cons hes))
    refine hfound.next fun fs => ?_
    rw [pageReader, Page.readEvents]
    rfl
  | case7 page s es tag hheading hparagraph hquote hlist htable _ ih =>
    intro hes
    refine .skip (opensGroup_of_suffix hts hes) (ih ((skip_suffix 0 _).trans hes)) fun fs => ?_
    rw [pageReader, Page.readEvents]
    · rfl
    all_goals assumption
  | case8 page e s es hheading hparagraph hquote hlist htable hstart ih =>
    intro hes
    refine (ih (suffix_of_cons hes)).next fun fs => ?_
    rw [pageReader, Page.readEvents]
    · rfl
    all_goals assumption

/-! ## Order -/

/-- What is left out is the range of a group. -/
theorem span_mem_groupSpans {o : Omission} (h : o ∈ omitted file ps) :
    o.span ∈ groupSpans (spellOut ps) := by
  obtain ⟨p, hp, ho⟩ := List.mem_filterMap.1 h
  cases p with
  | taken e => cases ho
  | skipped tag span inner =>
    obtain rfl : omission file tag span = o := Option.some.inj ho
    refine List.mem_filterMap.2 ⟨(.start tag, span), ?_, rfl⟩
    exact List.mem_flatMap.2 ⟨_, hp, List.mem_cons_self ..⟩

/-- Portions of well-nested events leave out ranges that stand in order and apart. -/
theorem omitted_in_order (file : Nat) (hts : InOrder outer ts) (ps : List Portion) :
    spellOut ps <:+ treeEvents ts →
      (omitted file ps).Pairwise (fun o o' => o.span.stop ≤ o'.span.first) ∧
      ∀ o ∈ omitted file ps, o.span.Inside outer := by
  induction ps with
  | nil =>
    intro _
    exact ⟨.nil, fun o ho => nomatch ho⟩
  | cons p ps ih =>
    intro hps
    have hrest : spellOut ps <:+ treeEvents ts := (List.suffix_append p.events _).trans hps
    obtain ⟨horder, hinside⟩ := ih hrest
    cases p with
    | taken e => exact ⟨horder, hinside⟩
    | skipped tag span inner =>
      have hopens : OpensGroup outer tag span
          (treeEvents inner ++ [(.finish tag.finish, span)] ++ spellOut ps) :=
        opensGroup_of_suffix hts hps
      obtain ⟨inner', after, hgroup, hspan, hafter⟩ := hopens
      -- the group that starts here is the one that is passed over
      have hgroup : around tag span (treeEvents inner) ++ spellOut ps
          = around tag span (treeEvents inner') ++ after := hgroup
      have hsame := congrArg (skip 0) hgroup
      rw [skip_around, skip_around] at hsame
      rw [← hsame] at hafter
      constructor
      · exact .cons (fun o ho => hafter o.span (span_mem_groupSpans ho)) horder
      · intro o ho
        rcases List.mem_cons.1 ho with rfl | ho
        · exact hspan
        · exact hinside o ho

/-- **Omissions point at separate constructs, in order.**  Let events be well nested, and let all that
is inside a group stand inside its range, one after the other.  Then the events of the page are
portions, some looked at and some groups that are passed over whole, and there is one omission for
each group that is passed over, with its range.  Nothing inside such a group matters: with anything
else in it, blocks and omissions are the same.  The ranges stand in order, do not overlap, and lie
where all events do. -/
theorem omissions_in_order (file : Nat) (hts : InOrder outer ts) :
    let page := Page.readEvents file ⟨[], []⟩ (treeEvents ts)
    ∃ ps, treeEvents ts = spellOut ps ∧ page.omissions = omitted file ps ∧
      (∀ ps', AllAlike ps ps' → Page.readEvents file ⟨[], []⟩ (spellOut ps') = page) ∧
      page.omissions.Pairwise (fun o o' => o.span.stop ≤ o'.span.first) ∧
      ∀ o ∈ page.omissions, o.span.Inside outer := by
  intro page
  have hsteady : Steady file [] (pageReader file ⟨[], []⟩) (treeEvents ts) :=
    steady_readEvents hts ⟨[], []⟩ (treeEvents ts) (List.suffix_refl _)
  obtain ⟨blocks, ps, rest, hevents, hread⟩ := hsteady
  have hnone : rest = [] := by
    have h := hread ps (AllAlike.refl ps) rest rfl
    exact (congrArg (fun p => p.2.2) h).symm
  subst hnone
  rw [List.append_nil] at hevents
  have hall : ∀ ps', AllAlike ps ps' →
      Page.readEvents file ⟨[], []⟩ (spellOut ps') = ⟨blocks, omitted file ps⟩ := by
    intro ps' halike
    have h := hread ps' halike [] rfl
    rw [List.append_nil] at h
    have hblocks : (Page.readEvents file ⟨[], []⟩ (spellOut ps')).blocks = blocks :=
      congrArg Prod.fst h
    have homissions : (Page.readEvents file ⟨[], []⟩ (spellOut ps')).omissions = omitted file ps :=
      congrArg (fun p => p.2.1) h
    rw [← hblocks, ← homissions]
  have hpage : page = ⟨blocks, omitted file ps⟩ := by
    show Page.readEvents file ⟨[], []⟩ (treeEvents ts) = _
    rw [hevents]
    exact hall ps (AllAlike.refl ps)
  have horder := omitted_in_order file hts ps (hevents ▸ List.suffix_refl _)
  rw [hpage]
  exact ⟨ps, hevents, rfl, hall, horder⟩

end Groups

/-- A page with things that are passed over in a nested list and in a nested quote. -/
def nestedSkips : Text :=
  ("- a\n  - b\n\n    \x60\x60\x60\n    x\n    \x60\x60\x60\n\n    1. y\n\n> > c\n> >\n> > <p>\n"
    ++ "> >\n> > | d |\n> > |---|\n\n\x60\x60\x60\nz\n\x60\x60\x60\n").toList

/-- Each of them is passed over whole, and told of in its place. -/
theorem omissions_in_order_nestedSkips :
    InOrder ⟨0, Markdown.byteLength nestedSkips⟩ (Markdown.partTrees (Markdown.document nestedSkips)) ∧
    (Page.read 0 nestedSkips).omissions.map (fun o => (o.construct, o.span.first, o.span.stop))
      = [(.code, 15, 32), (.numberedList, 38, 44), (.html, 58, 62), (.other, 70, 86),
          (.code, 87, 96)] ∧
    ∃ ps, Markdown.events nestedSkips = spellOut ps ∧
      (Page.read 0 nestedSkips).omissions = omitted 0 ps ∧
      ∀ ps', AllAlike ps ps' →
        Page.readEvents 0 ⟨[], []⟩ (spellOut ps') = Page.read 0 nestedSkips := by
  have hts : InOrder ⟨0, Markdown.byteLength nestedSkips⟩
      (Markdown.partTrees (Markdown.document nestedSkips)) := by decide +kernel
  refine ⟨hts, by decide +kernel, ?_⟩
  obtain ⟨ps, hevents, homissions, hall, -⟩ := omissions_in_order 0 hts
  rw [Markdown.treeEvents_partTrees] at hevents homissions hall
  exact ⟨ps, hevents, homissions, hall⟩

end Scenarist.Reading
