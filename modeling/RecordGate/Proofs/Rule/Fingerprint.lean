import RecordGate.Proofs.Sorting
import RecordGate.Proofs.Text.Utf8
import RecordGate.Proofs.Value
import RecordGate.Rule.Fingerprint

/-!
# What a fingerprint identifies

The fingerprint of rules is that of their revisions in any order (`fingerprintInput_perm`). Other rules have other
bytes, as long as no id and no time of a rule holds a separator; with separators in them, different revisions can
have the same line (`fingerprint_separator_in_id`).

A line with its end is read from the left: each part ends at the first separator, whatever lies behind it
(`Rule.endedLine_append_inj`). So the lines of rules are read one by one (`Rule.flatMap_endedLine_inj`), even where
a part holds a line break.
-/

namespace RecordGate

namespace Rule

variable {r s : Rule} {x y : List Char}

/-- What a fingerprint tells of a rule: which revision it is, and whether it is active. -/
def stamp (r : Rule) : String × RuleVersion × Bool := (r.id, r.revision, r.active)

/-- The line of a rule, which is made of what its fingerprint tells. -/
def lineOf (stamp : String × RuleVersion × Bool) : String :=
  let separator := "\x1f"
  stamp.1 ++ separator ++ toString stamp.2.1.version ++ separator ++ stamp.2.1.updatedAt ++ separator ++
    (if stamp.2.2 then "true" else "false")

theorem map_revisionLine (rules : List Rule) : rules.map revisionLine = (rules.map stamp).map lineOf := by
  rw [List.map_map]
  rfl

/-- A rule whose id and time hold no separator. -/
def Plain (r : Rule) : Prop := '\x1f' ∉ r.id.toList ∧ '\x1f' ∉ r.updatedAt.toList

instance (r : Rule) : Decidable r.Plain := inferInstanceAs (Decidable (_ ∧ _))

/-- The line of a rule with its end. -/
def endedLine (r : Rule) : List Char := r.revisionLine.toList ++ ['\n']

/-- The end of a line tells the activity. -/
def endOfLine (active : Bool) : List Char := (if active then "true" else "false").toList ++ ['\n']

theorem endedLine_eq (r : Rule) : r.endedLine = r.id.toList ++ '\x1f' :: (Nat.toDigits 10 r.version ++
    '\x1f' :: (r.updatedAt.toList ++ '\x1f' :: endOfLine r.active)) := by
  simp [endedLine, endOfLine, revisionLine]

theorem endOfLine_append_inj {a b : Bool} (h : endOfLine a ++ x = endOfLine b ++ y) : a = b ∧ x = y := by
  cases a <;> cases b
  case false.false | true.true => exact ⟨rfl, List.append_cancel_left h⟩
  case false.true | true.false => simp [endOfLine] at h

/-- A part ends at the first separator. -/
theorem part_inj {a b : List Char} (ha : '\x1f' ∉ a) (hb : '\x1f' ∉ b) (h : a ++ '\x1f' :: x = b ++ '\x1f' :: y) :
    a = b ∧ x = y := by
  have other {cs : List Char} (free : '\x1f' ∉ cs) : ∀ c ∈ cs, (c != '\x1f') = true :=
    fun c hc => bne_iff_ne.mpr fun same => free (same ▸ hc)
  have separator (cs : List Char) : ∀ c ∈ ('\x1f' :: cs).head?, (c != '\x1f') = false := by
    rintro c ⟨⟩
    rfl
  obtain ⟨part, rest⟩ := append_inj_of_runs (other ha) (other hb) (separator x) (separator y) h
  exact ⟨part, (List.cons.inj rest).2⟩

/-- **A line is read from the left**, whatever follows it. -/
theorem endedLine_append_inj (plain : r.Plain) (plain' : s.Plain) (h : r.endedLine ++ x = s.endedLine ++ y) :
    r.stamp = s.stamp ∧ x = y := by
  simp only [endedLine_eq, List.append_assoc, List.cons_append] at h
  obtain ⟨id, h⟩ := part_inj plain.1 plain'.1 h
  obtain ⟨version, h⟩ := part_inj (notMem_toDigits rfl) (notMem_toDigits rfl) h
  obtain ⟨updatedAt, h⟩ := part_inj plain.2 plain'.2 h
  obtain ⟨active, rest⟩ := endOfLine_append_inj h
  refine ⟨?_, rest⟩
  rw [stamp, stamp, revision, revision, String.toList_inj.mp id, toDigits_inj version, String.toList_inj.mp updatedAt,
    active]

theorem endedLine_ne_nil (r : Rule) : r.endedLine ≠ [] := by simp [endedLine]

/-- **Lines are read one by one.** -/
theorem flatMap_endedLine_inj {rules others : List Rule} (plain : ∀ r ∈ rules, r.Plain) (plain' : ∀ r ∈ others, r.Plain)
    (h : rules.flatMap endedLine = others.flatMap endedLine) : rules.map stamp = others.map stamp := by
  induction rules generalizing others with
  | nil =>
    cases others with
    | nil => rfl
    | cons s others => simp [endedLine_ne_nil] at h
  | cons r rules ih =>
    cases others with
    | nil => simp [endedLine_ne_nil] at h
    | cons s others =>
      obtain ⟨first, plain⟩ := List.forall_mem_cons.mp plain
      obtain ⟨first', plain'⟩ := List.forall_mem_cons.mp plain'
      obtain ⟨stamp, rest⟩ := endedLine_append_inj first first' h
      rw [List.map_cons, List.map_cons, stamp, ih plain plain' rest]

end Rule

variable {rules others : List Rule}

/-- The bytes that are hashed are those of the lines of the rules, ordered by their lines. -/
theorem fingerprintInput_eq_encode (rules : List Rule) :
    fingerprintInput rules = Text.encode (String.ofList
      ((rules.mergeSort fun a b => a.revisionLine ≤ b.revisionLine).flatMap Rule.endedLine)) := by
  have lines : (rules.mergeSort fun a b => a.revisionLine ≤ b.revisionLine).map Rule.revisionLine =
      (rules.map Rule.revisionLine).mergeSort fun a b => a ≤ b := List.map_mergeSort fun _ _ _ _ => rfl
  have line (r : Rule) : r.endedLine.flatMap String.utf8EncodeChar = Text.encode r.revisionLine ++ [0x0A] := by
    rw [Rule.endedLine, List.flatMap_append, ← Text.encode_eq]
    rfl
  simp only [fingerprintInput, ← lines, List.flatMap_map, Text.encode_ofList, List.flatMap_assoc, line]

/-- The same stamps in any order are the same bytes. -/
theorem fingerprintInput_perm (perm : (others.map Rule.stamp).Perm (rules.map Rule.stamp)) :
    fingerprintInput others = fingerprintInput rules := by
  have sorted := mergeSort_eq_of_perm (perm.map Rule.lineOf) fun _ _ _ _ same => same
  rw [fingerprintInput, fingerprintInput, Rule.map_revisionLine, Rule.map_revisionLine, sorted]

/-- The same bytes are the same stamps where no part holds a separator. -/
theorem perm_of_fingerprintInput (plain : ∀ r ∈ rules, r.Plain) (plain' : ∀ r ∈ others, r.Plain)
    (same : fingerprintInput others = fingerprintInput rules) :
    (others.map Rule.stamp).Perm (rules.map Rule.stamp) := by
  rw [fingerprintInput_eq_encode, fingerprintInput_eq_encode] at same
  have lines := String.ofList_injective (Text.encode_injective same)
  have ordered (rules : List Rule) : (rules.mergeSort fun a b => a.revisionLine ≤ b.revisionLine).Perm rules :=
    List.mergeSort_perm _ _
  have stamps := Rule.flatMap_endedLine_inj (fun r hr => plain' r ((ordered others).mem_iff.mp hr))
    (fun r hr => plain r ((ordered rules).mem_iff.mp hr)) lines
  exact ((ordered others).map _).symm.trans (stamps ▸ (ordered rules).map _)

/--
**A fingerprint identifies the revisions of rules.** Whatever the rules, the same revisions, as often and as active,
have the same bytes and the same fingerprint in any order. If no id and no time holds a separator, then other
revisions have other bytes, so that they have the same fingerprint only where the hash makes no difference between
these bytes.
-/
theorem fingerprint_identifies (rules others : List Rule) :
    let same := (others.map Rule.stamp).Perm (rules.map Rule.stamp)
    (same → fingerprintInput others = fingerprintInput rules ∧ fingerprint others = fingerprint rules) ∧
      ((∀ r ∈ rules ++ others, r.Plain) →
        (fingerprintInput others = fingerprintInput rules ↔ same) ∧
          (fingerprint others = fingerprint rules → same ∨
            (fingerprintInput others ≠ fingerprintInput rules ∧
              Sha256.hex (fingerprintInput others) = Sha256.hex (fingerprintInput rules)))) := by
  intro same
  refine ⟨fun perm => ?_, fun plain => ?_⟩
  · have bytes := fingerprintInput_perm perm
    exact ⟨bytes, congrArg Sha256.hex bytes⟩
  · obtain ⟨plain, plain'⟩ := List.forall_mem_append.mp plain
    have read := perm_of_fingerprintInput plain plain'
    refine ⟨⟨read, fingerprintInput_perm⟩, fun hashed => ?_⟩
    by_cases bytes : fingerprintInput others = fingerprintInput rules
    · exact .inl (read bytes)
    · exact .inr ⟨bytes, hashed⟩

/-- Two rules, one of them with a line break in its id: the other order, and a later revision. -/
theorem fingerprint_identifies_line_break :
    let rule (id : String) (version : Nat) : Rule :=
      ⟨id, .sales, .range, "amount > 0", .warning, "", true, version, "2024-06-01", none, none⟩
    let rules := [rule "R1\nR2" 1, rule "R2" 1]
    fingerprint [rule "R2" 1, rule "R1\nR2" 1] = fingerprint rules ∧
      fingerprintInput [rule "R1\nR2" 1, rule "R2" 2] ≠ fingerprintInput rules := by
  intro rule rules
  obtain ⟨anyOrder, -⟩ := fingerprint_identifies rules [rule "R2" 1, rule "R1\nR2" 1]
  obtain ⟨-, identified⟩ := fingerprint_identifies rules [rule "R1\nR2" 1, rule "R2" 2]
  have other : ¬([rule "R1\nR2" 1, rule "R2" 2].map Rule.stamp).Perm (rules.map Rule.stamp) := by decide
  exact ⟨(anyOrder (by decide)).2, fun bytes => other ((identified (by decide)).1.mp bytes)⟩

/-- A separator in an id or in a time moves the border between the parts: two rules are not told apart. -/
theorem fingerprint_separator_in_id :
    let first : Rule := ⟨"R\x1f1", .sales, .range, "amount > 0", .warning, "", true, 2, "", none, none⟩
    let second : Rule := ⟨"R", .sales, .range, "amount > 0", .warning, "", true, 1, "2\x1f", none, none⟩
    ¬([first].map Rule.stamp).Perm ([second].map Rule.stamp) ∧
      fingerprintInput [first] = fingerprintInput [second] ∧ fingerprint [first] = fingerprint [second] := by
  intro first second
  have line : first.revisionLine = second.revisionLine := by decide
  have bytes : fingerprintInput [first] = fingerprintInput [second] := by
    rw [fingerprintInput, fingerprintInput, List.map_singleton, List.map_singleton, line]
  exact ⟨by decide, bytes, congrArg Sha256.hex bytes⟩

end RecordGate
