import Mathlib.Data.List.Forall2
import RecordGate.FileState
import RecordGate.Proofs.Value

/-!
# The keys of tuples

A key can be taken apart again: it is cut at its bars that no backslash stands before (`cutAtBar`), and
each part is the escaped form of one text (`escapeChars_injective`) or the mark of null. A tuple is a row of
such parts, and rows with a bar before each part are taken apart without knowing how many there are
(`barred_inj`).

So two tuples have the same key exactly when they belong to the same call of the same rule, are of one length
and agree in what each of their values is written as (`FileState.keys_identify`). Only the tuple without a
value is mistaken, for that of one empty text; no call of `unique` has it.
-/

namespace RecordGate.FileState

/-- What stands before the first bar that is not escaped, and what is left from there on. -/
def cutAtBar : List Char → List Char × List Char
  | [] => ([], [])
  | '\\' :: c :: rest => ('\\' :: c :: (cutAtBar rest).1, (cutAtBar rest).2)
  | c :: rest => if c = '|' then ([], c :: rest) else (c :: (cutAtBar rest).1, (cutAtBar rest).2)

/-- A part of a key stops where the key does, or at a bar. -/
def Stops (cs : List Char) : Prop := cs = [] ∨ ∃ rest, cs = '|' :: rest

theorem cutAtBar_of_stops {cs : List Char} (h : Stops cs) : cutAtBar cs = ([], cs) := by
  rcases h with rfl | ⟨rest, rfl⟩
  · rfl
  · rfl

theorem cutAtBar_cons {c : Char} {rest : List Char} (plain : c ≠ '\\' ∧ c ≠ '|') :
    cutAtBar (c :: rest) = (c :: (cutAtBar rest).1, (cutAtBar rest).2) := by
  rw [cutAtBar.eq_def]
  split
  · contradiction
  · next h =>
    cases h
    exact absurd rfl plain.1
  · next h =>
    cases h
    exact if_neg plain.2

theorem cutAtBar_escapeChars (cs : List Char) {rest : List Char} (h : Stops rest) :
    cutAtBar (escapeChars cs ++ rest) = (escapeChars cs, rest) := by
  induction cs with
  | nil => exact cutAtBar_of_stops h
  | cons c cs ih =>
    unfold escapeChars
    split
    · rw [List.cons_append, List.cons_append, cutAtBar, ih]
    · next plain =>
      have plain : c ≠ '\\' ∧ c ≠ '|' := by simpa using plain
      rw [List.cons_append, cutAtBar_cons plain, ih]

theorem cutAtBar_plain {cs rest : List Char} (plain : ∀ c ∈ cs, c ≠ '\\' ∧ c ≠ '|') (h : Stops rest) :
    cutAtBar (cs ++ rest) = (cs, rest) := by
  induction cs with
  | nil => exact cutAtBar_of_stops h
  | cons c cs ih =>
    obtain ⟨first, others⟩ := List.forall_mem_cons.mp plain
    rw [List.cons_append, cutAtBar_cons first, ih others]

/-- The text of an escaped text. -/
def unescapeChars : List Char → List Char
  | [] => []
  | '\\' :: c :: rest => c :: unescapeChars rest
  | c :: rest => c :: unescapeChars rest

theorem unescapeChars_cons {c : Char} {rest : List Char} (plain : c ≠ '\\') :
    unescapeChars (c :: rest) = c :: unescapeChars rest := by
  rw [unescapeChars.eq_def]
  split
  · contradiction
  · next h =>
    cases h
    exact absurd rfl plain
  · next h =>
    cases h
    rfl

theorem unescapeChars_escapeChars (cs : List Char) : unescapeChars (escapeChars cs) = cs := by
  induction cs with
  | nil => rfl
  | cons c cs ih =>
    unfold escapeChars
    split
    · rw [unescapeChars, ih]
    · next plain =>
      have plain : c ≠ '\\' ∧ c ≠ '|' := by simpa using plain
      rw [unescapeChars_cons plain.1, ih]

theorem escapeChars_injective {a b : List Char} (h : escapeChars a = escapeChars b) : a = b := by
  rw [← unescapeChars_escapeChars a, h, unescapeChars_escapeChars]

/-! ## Components -/

/-- An escaped text never is the mark of null: it has no backslash before a letter. -/
theorem escapeChars_ne_null (cs : List Char) : escapeChars cs ≠ ['\\', 'N'] := by
  intro h
  cases cs with
  | nil => cases h
  | cons c cs =>
    unfold escapeChars at h
    split at h
    · next special =>
      obtain ⟨-, h⟩ := List.cons.inj h
      obtain ⟨rfl, -⟩ := List.cons.inj h
      cases special
    · next plain =>
      obtain ⟨rfl, -⟩ := List.cons.inj h
      exact plain rfl

theorem component_of_ne_null {v : Value} (h : v ≠ .null) : component v = escapeChars v.written.toList := by
  cases v with
  | null => exact absurd rfl h
  | bool | number | text | date | timestamp => rfl

theorem cutAtBar_component (v : Value) {rest : List Char} (h : Stops rest) :
    cutAtBar (component v ++ rest) = (component v, rest) := by
  by_cases null : v = .null
  · subst null
    change cutAtBar ('\\' :: 'N' :: rest) = _
    rw [cutAtBar, cutAtBar_of_stops h]
    rfl
  · rw [component_of_ne_null null]
    exact cutAtBar_escapeChars _ h

/-- Null has a component of its own, and values that are written alike share one. -/
theorem component_eq_iff {v w : Value} :
    component v = component w ↔ (v = .null ↔ w = .null) ∧ v.written = w.written := by
  by_cases hv : v = .null <;> by_cases hw : w = .null
  · subst hv hw
    simp
  · subst hv
    rw [component_of_ne_null hw]
    exact ⟨fun h => absurd h.symm (escapeChars_ne_null _), fun h => absurd (h.1.mp rfl) hw⟩
  · subst hw
    rw [component_of_ne_null hv]
    exact ⟨fun h => absurd h (escapeChars_ne_null _), fun h => absurd (h.1.mpr rfl) hv⟩
  · rw [component_of_ne_null hv, component_of_ne_null hw]
    refine ⟨fun h => ⟨by simp [hv, hw], String.toList_inj.mp (escapeChars_injective h)⟩, fun h => ?_⟩
    rw [h.2]

/-! ## Tuples -/

/-- The components of a tuple with a bar before each. -/
def barred (vs : List Value) : List Char := (vs.map component).flatMap ('|' :: ·)

theorem barred_cons (v : Value) (rest : List Value) : barred (v :: rest) = '|' :: component v ++ barred rest :=
  List.flatMap_cons

theorem stops_barred (vs : List Value) : Stops (barred vs) := by
  cases vs with
  | nil => exact .inl rfl
  | cons v rest => exact .inr ⟨_, barred_cons v rest⟩

/-- A row of components is taken apart at its bars. -/
theorem barred_inj {vs ws : List Value} : barred vs = barred ws ↔ vs.map component = ws.map component := by
  refine ⟨fun h => ?_, fun h => ?_⟩
  · induction vs generalizing ws with
    | nil =>
      cases ws with
      | nil => rfl
      | cons w ws => cases h
    | cons v vs ih =>
      cases ws with
      | nil => cases h
      | cons w ws =>
        rw [barred_cons, barred_cons, List.cons_append, List.cons_append] at h
        have cut := congrArg cutAtBar (List.cons.inj h).2
        rw [cutAtBar_component v (stops_barred vs), cutAtBar_component w (stops_barred ws)] at cut
        obtain ⟨first, others⟩ := Prod.mk.inj cut
        rw [List.map_cons, List.map_cons, first, ih others]
  · rw [barred, barred, h]

/-- Between the components of a tuple stand bars, and none stands before the first. -/
theorem barred_eq {vs : List Value} (h : vs ≠ []) : barred vs = '|' :: tupleChars vs := by
  induction vs with
  | nil => exact absurd rfl h
  | cons v rest ih =>
    rw [barred_cons]
    cases rest with
    | nil => exact List.append_nil _
    | cons w rest =>
      rw [ih (List.cons_ne_nil w rest)]
      rfl

/-- A tuple is taken apart into its components. -/
theorem tupleChars_inj_of_ne_nil {vs ws : List Value} (hv : vs ≠ []) (hw : ws ≠ []) :
    tupleChars vs = tupleChars ws ↔ vs.map component = ws.map component := by
  rw [← barred_inj, barred_eq hv, barred_eq hw, List.cons_inj_right]

/-- The tuple without a value has the text of the tuple of one empty text. -/
example : tupleChars [] = tupleChars [.text ""] := rfl

/-- Tuples of one length are taken apart also if they have no value. -/
theorem tupleChars_inj {vs ws : List Value} (length : vs.length = ws.length) :
    tupleChars vs = tupleChars ws ↔ vs.map component = ws.map component := by
  cases vs with
  | nil =>
    rw [List.length_eq_zero_iff.mp length.symm]
    exact ⟨fun _ => rfl, fun _ => rfl⟩
  | cons v vs =>
    obtain ⟨w, ws, rfl⟩ := List.exists_cons_of_length_eq_add_one length.symm
    exact tupleChars_inj_of_ne_nil (List.cons_ne_nil v vs) (List.cons_ne_nil w ws)

/-! ## Keys -/

theorem plain_of_isDigit {c : Char} (h : c.isDigit = true) : c ≠ '\\' ∧ c ≠ '|' := by
  constructor <;> rintro rfl <;> cases h

/-- A key is taken apart into the rule, the call and the tuple. -/
theorem key_eq_iff {r r' : String} {site site' : Nat} {vs ws : List Value} :
    key r site vs = key r' site' ws ↔ r = r' ∧ site = site' ∧ tupleChars vs = tupleChars ws := by
  constructor
  · intro h
    have h := String.ofList_injective h
    simp only [List.append_assoc, List.cons_append] at h
    have digits (n : Nat) : ∀ c ∈ Nat.toDigits 10 n, c ≠ '\\' ∧ c ≠ '|' :=
      fun c hc => plain_of_isDigit (Nat.isDigit_of_mem_toDigits (by decide) (by decide) hc)
    have rule := congrArg cutAtBar h
    rw [cutAtBar_escapeChars _ (.inr ⟨_, rfl⟩), cutAtBar_escapeChars _ (.inr ⟨_, rfl⟩)] at rule
    obtain ⟨rule, h⟩ := Prod.mk.inj rule
    have call := congrArg cutAtBar (List.cons.inj h).2
    rw [cutAtBar_plain (digits site) (.inr ⟨_, rfl⟩), cutAtBar_plain (digits site') (.inr ⟨_, rfl⟩)] at call
    obtain ⟨call, h⟩ := Prod.mk.inj call
    exact ⟨String.toList_inj.mp (escapeChars_injective rule), toDigits_inj call, (List.cons.inj h).2⟩
  · rintro ⟨rfl, rfl, h⟩
    rw [key, key, h]

/-! ## Recording -/

/-- Whether a tuple has been recorded for a call of a rule. -/
def Met (s : FileState) (ruleId : String) (site : Nat) (values : List Value) : Prop :=
  key ruleId site values ∈ s.seen

variable {s : FileState} {r : String} {site : Nat} {vs : List Value}

/-- A tuple is new unless its key has been met. -/
theorem record_fresh : (s.record r site vs).1 = false ↔ s.Met r site vs := by
  rw [record, Met, Bool.not_eq_false', Std.HashSet.contains_iff_mem]

/-- After recording a tuple its key has been met, and the other keys are as before. -/
theorem met_record {r' : String} {site' : Nat} {ws : List Value} :
    (s.record r site vs).2.Met r' site' ws ↔ key r site vs = key r' site' ws ∨ s.Met r' site' ws := by
  rw [record, Met, Met, Std.HashSet.mem_insert, beq_iff_eq]

theorem not_met_start {asOf : Date} : ¬(start asOf).Met r site vs := by
  simp [start, Met]

/-! ## What a key identifies -/

/-- Both are null, or neither is and they are written alike. -/
def SameText (v w : Value) : Prop := (v = .null ↔ w = .null) ∧ (v ≠ .null → v.written = w.written)

theorem component_eq_iff_sameText {v w : Value} : component v = component w ↔ SameText v w := by
  rw [component_eq_iff, SameText]
  refine and_congr_right fun nulls => ⟨fun same _ => same, fun same => ?_⟩
  by_cases hv : v = .null
  · rw [hv, nulls.mp hv]
  · exact same hv

theorem map_component_eq_iff_sameText {vs ws : List Value} :
    vs.map component = ws.map component ↔ List.Forall₂ SameText vs ws := by
  rw [← List.forall₂_eq_eq_eq, List.forall₂_map_left_iff, List.forall₂_map_right_iff]
  simp only [component_eq_iff_sameText]

/-- A tuple at a call of a rule. -/
structure Entry where
  ruleId : String
  site : Nat
  values : List Value

namespace Entry

/-- The key under which the tuple is recorded. -/
def key (t : Entry) : String := FileState.key t.ruleId t.site t.values

/-- The tuples belong to one call of one rule, are of one length and agree position by position. -/
structure Alike (t u : Entry) : Prop where
  rule : t.ruleId = u.ruleId
  site : t.site = u.site
  values : List.Forall₂ SameText t.values u.values

/-- Tuples with values have one key only if they are alike. -/
theorem key_eq_key_iff {t u : Entry} (ht : t.values ≠ []) (hu : u.values ≠ []) : t.key = u.key ↔ t.Alike u := by
  rw [key, key, key_eq_iff, tupleChars_inj_of_ne_nil ht hu, map_component_eq_iff_sameText]
  exact ⟨fun ⟨rule, site, values⟩ => ⟨rule, site, values⟩, fun h => ⟨h.rule, h.site, h.values⟩⟩

end Entry

/-- Records tuples one after the other. -/
def recordAll (s : FileState) (tuples : List Entry) : FileState :=
  tuples.foldl (fun s t => (s.record t.ruleId t.site t.values).2) s

/-- After a run the keys of its tuples have been met, and the other keys are as before. -/
theorem met_recordAll {s : FileState} {tuples : List Entry} {u : Entry} :
    (s.recordAll tuples).Met u.ruleId u.site u.values ↔
      (∃ t ∈ tuples, t.key = u.key) ∨ s.Met u.ruleId u.site u.values := by
  induction tuples generalizing s with
  | nil => simp [recordAll]
  | cons t rest ih =>
    rw [List.exists_mem_cons_iff, or_assoc, or_left_comm]
    exact ih.trans (or_congr_right met_record)

/--
**A key identifies a tuple at a call of a rule.** Two tuples with a value each have one key exactly when they belong
to one call of one rule, are of one length, are null at the same positions and are written alike elsewhere, whatever
their texts contain. So after any run over such tuples a tuple is answered to have been met exactly when one like it
was in the run.
-/
theorem keys_identify :
    (∀ t u : Entry, t.values ≠ [] → u.values ≠ [] → (t.key = u.key ↔ t.Alike u)) ∧
      ∀ (asOf : Date) (before : List Entry) (u : Entry), (∀ t ∈ before, t.values ≠ []) → u.values ≠ [] →
        ((((start asOf).recordAll before).record u.ruleId u.site u.values).1 = false ↔ ∃ t ∈ before, t.Alike u) := by
  refine ⟨fun t u ht hu => Entry.key_eq_key_iff ht hu, fun asOf before u filled hu => ?_⟩
  rw [record_fresh, met_recordAll, or_iff_left not_met_start]
  exact exists_congr fun t => and_congr_right fun mem => Entry.key_eq_key_iff (filled t mem) hu

/-- The bar in the first text and the bar between two values are told apart, and so are null and the text of its mark. -/
theorem keys_identify_bars :
    let t : Entry := ⟨"R|1", 0, [.text "a|b", .null]⟩
    let u : Entry := ⟨"R|1", 0, [.text "a", .text "b|\\N"]⟩
    t.values ≠ [] ∧ u.values ≠ [] ∧ ¬t.Alike u ∧ t.key ≠ u.key ∧
      (((start .epoch).recordAll [t]).record u.ruleId u.site u.values).1 = true ∧
      (((start .epoch).recordAll [t, u]).record t.ruleId t.site t.values).1 = false := by
  intro t u
  have ht : t.values ≠ [] := nofun
  have hu : u.values ≠ [] := nofun
  have differ : ¬t.Alike u := fun alike => by
    have first : SameText (.text "a|b") (.text "a") := (List.forall₂_cons.mp alike.values).1
    exact absurd (first.2 nofun) (by decide)
  have again : t.Alike t := (keys_identify.1 t t ht ht).mp rfl
  have one := keys_identify.2 .epoch [t] u (List.forall_mem_singleton.mpr ht) hu
  have both := keys_identify.2 .epoch [t, u] t (List.forall_mem_cons.mpr ⟨ht, List.forall_mem_singleton.mpr hu⟩) ht
  refine ⟨ht, hu, differ, differ ∘ (keys_identify.1 t u ht hu).mp, ?_, both.mpr ⟨t, List.mem_cons_self, again⟩⟩
  refine eq_true_of_ne_false fun met => ?_
  obtain ⟨v, mem, alike⟩ := one.mp met
  exact differ (List.mem_singleton.mp mem ▸ alike)

end RecordGate.FileState
