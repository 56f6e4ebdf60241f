/-
  Distinct keys — in no table of a document does a key stand twice.

  1. **Values (`Value.Distinct`)** — a value is distinct if the tables in it, at any depth, have distinct
     keys.  While a document is put together the same is said of its nodes (`Node.Distinct`).

  2. **Building** — letting a key stand for something replaces what it stood for (`distinct_set`), so
     every statement keeps keys distinct, whatever table it changes (`distinct_alter`).  Inline tables
     are built from pairs in the same way.

  3. **Documents** — what is read from a text is distinct (`distinct_parse`).
-/
import Mathlib.Data.List.Nodup
import Scenarist.Toml.Document

namespace Scenarist.Toml

variable {v : Value} {vs items : List Value} {es out : Entries} {key : Text} {path : List Text}
  {node : Node} {t rest : Text}

/-! ## Distinct values and nodes -/

/-- The tables in a value have distinct keys. -/
inductive Value.Distinct : Value → Prop where
  /-- A string. -/
  | string (t : Text) : Distinct (.string t)
  /-- An integer. -/
  | integer (n : Int) : Distinct (.integer n)
  /-- A floating-point number. -/
  | float (written : Text) : Distinct (.float written)
  /-- A truth value. -/
  | boolean (b : Bool) : Distinct (.boolean b)
  /-- A date, a time, or both. -/
  | datetime (written : Text) : Distinct (.datetime written)
  /-- An array. -/
  | array {items : List Value} (inside : ∀ v ∈ items, Distinct v) : Distinct (.array items)
  /-- A table. -/
  | table {entries : Table} (differ : (entries.map Prod.fst).Nodup)
      (inside : ∀ p ∈ entries, Distinct p.2) : Distinct (.table entries)

/-- The tables in a node have distinct keys. -/
inductive Node.Distinct : Node → Prop where
  /-- A value. -/
  | value {v : Value} (h : v.Distinct) : Distinct (.value v)
  /-- A table. -/
  | table {origin : Origin} {es : Entries} (differ : (es.map Prod.fst).Nodup)
      (inside : ∀ p ∈ es, Distinct p.2) : Distinct (.table origin es)
  /-- An array of tables. -/
  | tables {last : Entries} {before : List Entries}
      (differ : ∀ es ∈ last :: before, (es.map Prod.fst).Nodup)
      (inside : ∀ es ∈ last :: before, ∀ p ∈ es, Distinct p.2) : Distinct (.tables last before)

/-- Entries with distinct keys, and with distinct keys in all tables inside. -/
structure Entries.Distinct (es : Entries) : Prop where
  /-- The keys are distinct. -/
  differ : (es.map Prod.fst).Nodup
  /-- The keys of all tables inside are. -/
  inside : ∀ p ∈ es, p.2.Distinct

theorem Entries.distinct_nil : Entries.Distinct [] := ⟨List.nodup_nil, nofun⟩

theorem Value.Distinct.differ {entries : Table} (h : Distinct (.table entries)) :
    (entries.map Prod.fst).Nodup := by
  cases h
  assumption

theorem Value.Distinct.inside {entries : Table} (h : Distinct (.table entries)) :
    ∀ p ∈ entries, p.2.Distinct := by
  cases h
  assumption

/-! ## Building -/

namespace Entries

theorem mem_of_find? (h : es.find? key = some node) : (key, node) ∈ es := by
  induction es with
  | nil => cases h
  | cons first es ih =>
    obtain ⟨k, n⟩ := first
    rw [find?] at h
    split at h
    · next hk =>
      obtain rfl := Option.some.inj h
      rw [hk]
      exact List.mem_cons_self ..
    · exact List.mem_cons_of_mem _ (ih h)

/-- What is set stands in the place of what was there, or last. -/
theorem mem_of_mem_set {p : Text × Node} (h : p ∈ es.set key node) : p.2 = node ∨ p ∈ es := by
  induction es with
  | nil =>
    obtain rfl := List.mem_singleton.1 h
    exact .inl rfl
  | cons first es ih =>
    obtain ⟨k, n⟩ := first
    rw [set] at h
    split at h
    · rcases List.mem_cons.1 h with rfl | h
      · exact .inl rfl
      · exact .inr (List.mem_cons_of_mem _ h)
    · rcases List.mem_cons.1 h with rfl | h
      · exact .inr (List.mem_cons_self ..)
      · exact (ih h).imp_right (List.mem_cons_of_mem _)

theorem mem_keys_set {k : Text} :
    k ∈ (es.set key node).map Prod.fst ↔ k = key ∨ k ∈ es.map Prod.fst := by
  induction es with
  | nil => simp [set]
  | cons first es ih =>
    obtain ⟨k', n⟩ := first
    rw [set]
    split
    · next hk => simp [hk]
    · simp only [List.map_cons, List.mem_cons, ih]
      exact or_left_comm

theorem nodup_keys_set (h : (es.map Prod.fst).Nodup) : ((es.set key node).map Prod.fst).Nodup := by
  induction es with
  | nil => exact List.nodup_singleton key
  | cons first es ih =>
    obtain ⟨k, n⟩ := first
    obtain ⟨hk, hes⟩ := List.nodup_cons.1 h
    rw [set]
    split
    · exact h
    · next hne =>
      refine List.nodup_cons.2 ⟨fun hmem => ?_, ih hes⟩
      exact (mem_keys_set.1 hmem).elim hne hk

/-- Letting a key stand for something keeps keys distinct. -/
theorem distinct_set (hes : es.Distinct) (hnode : node.Distinct) : (es.set key node).Distinct where
  differ := nodup_keys_set hes.differ
  inside := by
    intro p hp
    rcases mem_of_mem_set hp with h | h
    · rw [h]
      exact hnode
    · exact hes.inside p h

/-- A change of one table keeps keys distinct. -/
def Keeps (change : Origin → Entries → Option Entries) : Prop :=
  ∀ origin es out, change origin es = some out → es.Distinct → out.Distinct

/-- **One change** keeps all keys distinct, wherever the table is that it changes. -/
theorem distinct_alter {dotted : Bool} {change : Origin → Entries → Option Entries}
    {origin : Origin} (hchange : Keeps change) (h : alter dotted change path origin es = some out)
    (hes : es.Distinct) : out.Distinct := by
  induction path generalizing origin es out with
  | nil => exact hchange origin es out h hes
  | cons key path ih =>
    rw [alter] at h
    split at h
    · obtain ⟨inner, hinner, hout⟩ := Option.bind_eq_some_iff.1 h
      obtain rfl := Option.some.inj hout
      have hdistinct := ih hinner distinct_nil
      exact distinct_set hes (.table hdistinct.differ hdistinct.inside)
    · cases h
    · next last before hfind =>
      obtain ⟨inner, hinner, hout⟩ := Option.bind_eq_some_iff.1 h
      obtain rfl := Option.some.inj hout
      cases hes.inside _ (mem_of_find? hfind) with
      | tables differ inside =>
        obtain ⟨hlast, hbefore⟩ := List.forall_mem_cons.1 differ
        obtain ⟨hinlast, hinbefore⟩ := List.forall_mem_cons.1 inside
        have hdistinct := ih hinner ⟨hlast, hinlast⟩
        exact distinct_set hes (.tables (List.forall_mem_cons.2 ⟨hdistinct.differ, hbefore⟩)
          (List.forall_mem_cons.2 ⟨hdistinct.inside, hinbefore⟩))
    · next hfind =>
      split at h
      · cases h
      · obtain ⟨inner, hinner, hout⟩ := Option.bind_eq_some_iff.1 h
        obtain rfl := Option.some.inj hout
        cases hes.inside _ (mem_of_find? hfind) with
        | table differ inside =>
          have hdistinct := ih hinner ⟨differ, inside⟩
          exact distinct_set hes (.table hdistinct.differ hdistinct.inside)

theorem distinct_addPair (hv : v.Distinct) (h : addPair path key v es = some out)
    (hes : es.Distinct) : out.Distinct := by
  refine distinct_alter (fun origin es out hput hes => ?_) h hes
  split at hput
  · cases hput
  · obtain rfl := Option.some.inj hput
    exact distinct_set hes (.value hv)

theorem keeps_openTable (key : Text) : Keeps fun _ => openTable key := by
  intro origin es out h hes
  dsimp only [openTable] at h
  split at h
  · obtain rfl := Option.some.inj h
    exact distinct_set hes (.table List.nodup_nil nofun)
  · next hfind =>
    obtain rfl := Option.some.inj h
    cases hes.inside _ (mem_of_find? hfind) with
    | table differ inside => exact distinct_set hes (.table differ inside)
  · cases h

theorem keeps_openNext (key : Text) : Keeps fun _ => openNext key := by
  intro origin es out h hes
  dsimp only [openNext] at h
  split at h
  · obtain rfl := Option.some.inj h
    exact distinct_set hes (.tables (List.forall_mem_singleton.2 List.nodup_nil)
      (List.forall_mem_singleton.2 nofun))
  · next hfind =>
    obtain rfl := Option.some.inj h
    cases hes.inside _ (mem_of_find? hfind) with
    | tables differ inside =>
      exact distinct_set hes (.tables (List.forall_mem_cons.2 ⟨List.nodup_nil, differ⟩)
        (List.forall_mem_cons.2 ⟨nofun, inside⟩))
  · cases h

end Entries

/-! ## Closing -/

theorem closeEntries_eq (es : Entries) : closeEntries es = es.map fun p => (p.1, p.2.close) := by
  induction es with
  | nil => rfl
  | cons first es ih =>
    rw [closeEntries, ih]
    rfl

theorem mem_closeTables {ts : List Entries} :
    v ∈ closeTables ts vs ↔ (∃ es ∈ ts, v = .table (closeEntries es)) ∨ v ∈ vs := by
  induction ts generalizing vs with
  | nil => simp [closeTables]
  | cons es ts ih =>
    rw [closeTables, ih, List.exists_mem_cons_iff, List.mem_cons, or_assoc]
    exact or_left_comm

theorem distinct_closeEntries (differ : (es.map Prod.fst).Nodup)
    (inside : ∀ p ∈ es, p.2.close.Distinct) : Value.Distinct (.table (closeEntries es)) := by
  rw [closeEntries_eq]
  refine .table ?_ ?_
  · rw [List.map_map]
    exact differ
  · intro q hq
    obtain ⟨p, hp, rfl⟩ := List.mem_map.1 hq
    exact inside p hp

/-- What is finished is distinct. -/
theorem distinct_close (h : node.Distinct) : node.close.Distinct := by
  induction h with
  | value h => exact h
  | table differ _ ih => exact distinct_closeEntries differ ih
  | @tables last before differ _ ih =>
    refine .array fun v hv => ?_
    rw [mem_closeTables, List.mem_singleton] at hv
    rcases hv with ⟨es, hes, rfl⟩ | rfl
    · have hmem := List.mem_cons_of_mem last hes
      exact distinct_closeEntries (differ es hmem) (ih es hmem)
    · have hmem := List.mem_cons_self (a := last) (l := before)
      exact distinct_closeEntries (differ last hmem) (ih last hmem)

theorem Entries.Distinct.close (h : es.Distinct) : Value.Distinct (.table (closeEntries es)) :=
  distinct_closeEntries h.differ fun p hp => distinct_close (h.inside p hp)

/-! ## Reading -/

/-- What holds at first and is kept by each step holds after all steps. -/
theorem of_foldlM {α β : Type} {P : β → Prop} {Q : α → Prop} {f : β → α → Option β}
    (hstep : ∀ b a b', Q a → f b a = some b' → P b → P b') {as : List α} (has : ∀ a ∈ as, Q a)
    {b b' : β} (h : as.foldlM f b = some b') (hb : P b) : P b' := by
  induction as generalizing b with
  | nil =>
    obtain rfl := Option.some.inj h
    exact hb
  | cons a as ih =>
    obtain ⟨ha, has⟩ := List.forall_mem_cons.1 has
    rw [List.foldlM_cons] at h
    obtain ⟨c, hc, hrest⟩ := Option.bind_eq_some_iff.1 h
    exact ih has hrest (hstep b a c ha hc hb)

/-- A reader of values gives distinct ones. -/
def ReadsDistinct (item : Text → Option (Value × Text)) : Prop :=
  ∀ t v rest, item t = some (v, rest) → v.Distinct

theorem distinct_integer64 {negative : Bool} {n : Nat} (h : integer64? negative n = some v) :
    v.Distinct := by
  unfold integer64? at h
  split at h <;> split at h <;> cases h <;> exact .integer _

theorem distinct_integer : ReadsDistinct integer? := by
  intro t v rest h
  have hnumber : ∀ (negative : Bool) (n : Nat) (behind : Text),
      (integer64? negative n).bind (fun v => some (v, behind)) = some (v, rest) → v.Distinct := by
    intro negative n behind h
    obtain ⟨m, hm, h⟩ := Option.bind_eq_some_iff.1 h
    cases h
    exact distinct_integer64 hm
  unfold integer? at h
  dsimp only at h
  split at h
  all_goals obtain ⟨⟨digits, behind⟩, -, h⟩ := Option.bind_eq_some_iff.1 h
  all_goals exact hnumber _ _ _ h

theorem distinct_scalar : ReadsDistinct scalar? := by
  intro t v rest h
  rw [scalar?] at h
  dsimp only at h
  split at h
  · cases h
    exact .string _
  · split at h
    · cases h
      exact .boolean _
    · cases h
      exact .boolean _
    · split at h
      · cases h
        exact .datetime _
      · cases h
        exact .float _
      · exact distinct_integer _ _ _ h

variable {item : Text → Option (Value × Text)} {fuel : Nat}

theorem distinct_arrayItems (hitem : ReadsDistinct item)
    (h : arrayItems? item fuel t = some (vs, rest)) : ∀ v ∈ vs, v.Distinct := by
  induction fuel generalizing t vs rest with
  | zero => cases h
  | succ fuel ih =>
    rw [arrayItems?] at h
    split at h
    · cases h
      exact nofun
    · obtain ⟨⟨v, behind⟩, hv, h⟩ := Option.bind_eq_some_iff.1 h
      dsimp only at h
      split at h
      · obtain ⟨⟨more, rest⟩, hmore, h⟩ := Option.bind_eq_some_iff.1 h
        cases h
        exact List.forall_mem_cons.2 ⟨hitem _ _ _ hv, ih hmore⟩
      · cases h
        exact List.forall_mem_singleton.2 (hitem _ _ _ hv)
      · cases h

theorem distinct_pair {p : List Text × Text × Value} (hitem : ReadsDistinct item)
    (h : pair? item t = some (p, rest)) : p.2.2.Distinct := by
  obtain ⟨⟨key, u⟩, -, h⟩ := Option.bind_eq_some_iff.1 h
  obtain ⟨u, -, h⟩ := Option.bind_eq_some_iff.1 h
  obtain ⟨⟨v, u⟩, hv, h⟩ := Option.bind_eq_some_iff.1 h
  obtain ⟨last, -, h⟩ := Option.bind_eq_some_iff.1 h
  cases h
  exact hitem _ _ _ hv

theorem distinct_inlinePairs {ps : List (List Text × Text × Value)} (hitem : ReadsDistinct item)
    (h : inlinePairs? item fuel t = some (ps, rest)) : ∀ p ∈ ps, p.2.2.Distinct := by
  induction fuel generalizing t ps rest with
  | zero => cases h
  | succ fuel ih =>
    obtain ⟨⟨p, behind⟩, hp, h⟩ := Option.bind_eq_some_iff.1 h
    dsimp only at h
    split at h
    · obtain ⟨⟨more, rest⟩, hmore, h⟩ := Option.bind_eq_some_iff.1 h
      cases h
      exact List.forall_mem_cons.2 ⟨distinct_pair hitem hp, ih hmore⟩
    · cases h
      exact List.forall_mem_singleton.2 (distinct_pair hitem hp)
    · cases h

theorem distinct_inlineTable {ps : List (List Text × Text × Value)}
    (hps : ∀ p ∈ ps, p.2.2.Distinct) (h : inlineTable? ps = some v) : v.Distinct := by
  obtain ⟨es, hes, h⟩ := Option.bind_eq_some_iff.1 h
  cases h
  have hdistinct : Entries.Distinct es :=
    of_foldlM (fun _ _ _ hp hadd hes => Entries.distinct_addPair hp hadd hes) hps hes
      Entries.distinct_nil
  exact hdistinct.close

/-- **Every value** that is read is distinct, however deep it goes. -/
theorem distinct_value (depth : Nat) : ReadsDistinct (value? depth) := by
  induction depth with
  | zero =>
    intro t v rest h
    rw [value?.eq_def] at h
    split at h
    · cases h
    · cases h
    · exact distinct_scalar _ _ _ h
  | succ depth ih =>
    intro t v rest h
    rw [value?.eq_def] at h
    split at h
    · obtain ⟨⟨vs, behind⟩, hvs, h⟩ := Option.map_eq_some_iff.1 h
      cases h
      exact .array (distinct_arrayItems ih hvs)
    · dsimp only at h
      split at h
      · cases h
        exact .table List.nodup_nil nofun
      · obtain ⟨⟨ps, behind⟩, hps, h⟩ := Option.bind_eq_some_iff.1 h
        obtain ⟨v, hv, h⟩ := Option.bind_eq_some_iff.1 h
        cases h
        exact distinct_inlineTable (distinct_inlinePairs ih hps) hv
    · exact distinct_scalar _ _ _ h

/-! ## Documents -/

/-- The value of a statement is distinct. -/
def Statement.Distinct : Statement → Prop
  | .pair _ _ v => v.Distinct
  | _ => True

theorem distinct_statement {s : Statement} (h : statement? t = some (s, rest)) : s.Distinct := by
  rw [statement?.eq_def] at h
  split at h
  · obtain ⟨⟨key, u⟩, -, h⟩ := Option.bind_eq_some_iff.1 h
    obtain ⟨u, -, h⟩ := Option.bind_eq_some_iff.1 h
    obtain ⟨u, -, h⟩ := Option.bind_eq_some_iff.1 h
    obtain ⟨last, -, h⟩ := Option.bind_eq_some_iff.1 h
    cases h
    trivial
  · obtain ⟨⟨key, u⟩, -, h⟩ := Option.bind_eq_some_iff.1 h
    obtain ⟨u, -, h⟩ := Option.bind_eq_some_iff.1 h
    obtain ⟨u, -, h⟩ := Option.bind_eq_some_iff.1 h
    obtain ⟨last, -, h⟩ := Option.bind_eq_some_iff.1 h
    cases h
    trivial
  · obtain ⟨⟨⟨path, key, v⟩, behind⟩, hpair, h⟩ := Option.bind_eq_some_iff.1 h
    obtain ⟨u, -, h⟩ := Option.bind_eq_some_iff.1 h
    cases h
    exact distinct_pair (distinct_value maxDepth) hpair

theorem distinct_statements {ss : List Statement} (h : statements? fuel t = some ss) :
    ∀ s ∈ ss, s.Distinct := by
  induction fuel generalizing t ss with
  | zero => cases h
  | succ fuel ih =>
    rw [statements?] at h
    split at h
    · cases h
      exact nofun
    · split at h
      · cases h
        exact nofun
      · cases h
    · obtain ⟨⟨s, behind⟩, hs, h⟩ := Option.bind_eq_some_iff.1 h
      obtain ⟨more, hmore, h⟩ := Option.bind_eq_some_iff.1 h
      cases h
      exact List.forall_mem_cons.2 ⟨distinct_statement hs, ih hmore⟩

/-- One statement keeps all keys distinct. -/
theorem distinct_run {s : Statement} {doc after : List Text × Entries} (hs : s.Distinct)
    (h : s.run doc = some after) (hdoc : doc.2.Distinct) : after.2.Distinct := by
  cases s with
  | header path key =>
    obtain ⟨es, hes, h⟩ := Option.bind_eq_some_iff.1 h
    cases h
    exact Entries.distinct_alter (Entries.keeps_openTable key) hes hdoc
  | next path key =>
    obtain ⟨es, hes, h⟩ := Option.bind_eq_some_iff.1 h
    cases h
    exact Entries.distinct_alter (Entries.keeps_openNext key) hes hdoc
  | pair path key v =>
    obtain ⟨es, hes, h⟩ := Option.bind_eq_some_iff.1 h
    cases h
    exact Entries.distinct_alter (fun _ _ _ => Entries.distinct_addPair hs) hes hdoc

/-- **Documents are distinct.**  In no table of a document does a key stand twice. -/
theorem distinct_parse {table : Table} (h : parse? t = some table) :
    Value.Distinct (.table table) := by
  obtain ⟨ss, hss, h⟩ := Option.bind_eq_some_iff.1 h
  obtain ⟨⟨path, es⟩, hes, h⟩ := Option.bind_eq_some_iff.1 h
  cases h
  have hdistinct : Entries.Distinct es :=
    of_foldlM (P := fun doc : List Text × Entries => doc.2.Distinct)
      (fun _ _ _ => distinct_run) (distinct_statements hss) hes Entries.distinct_nil
  exact hdistinct.close

end Scenarist.Toml
