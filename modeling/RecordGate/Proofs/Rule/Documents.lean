import RecordGate.Proofs.Json.Documents
import RecordGate.Proofs.Rule.Findings

/-!
# Rule documents

The document of a set of rules is checked against its contract, read, and searched for errors. The contract of the
program is read as `RuleSet.documentDemands`; it admits every document that has the members of its rules
(`RuleSet.IsWritten.admitted`), and such a document is read as these rules (`RuleSet.IsWritten.read`), in whatever
order its members stand.

Main statement: the document of rules is accepted exactly when the rules are sound, and gives them back in their order
with the warnings about them (`RuleSet.validate_toJson`).
-/

namespace RecordGate

open Json (Contract Arranges)

/-! ## The contract -/

namespace RuleSet

def textDemand : Contract := .all [.type [.string]]

def optionalTextDemand : Contract := .all [.type [.null, .string]]

/-- One of several names. -/
def nameDemand (names : List String) : Contract := .all [.enum (names.map .str), .type [.string]]

/-- What the contract demands of a rule. -/
def ruleDemands : Contract := .all [
  .properties [
    ("active", .all [.type [.boolean]]),
    ("description", optionalTextDemand),
    ("error_message", textDemand),
    ("expression", textDemand),
    ("record_type", nameDemand ["SALES", "INVENTORY", "EXPENSE"]),
    ("rule_id", textDemand),
    ("rule_name", optionalTextDemand),
    ("rule_type", .all [.oneOf [nameDemand ["RANGE"], nameDemand ["COMPARISON"], nameDemand ["BUSINESS"]]]),
    ("severity", nameDemand ["CRITICAL", "WARNING", "INFO"]),
    ("updated_at", textDemand),
    ("version", .all [.minimum (.float .zero), .type [.integer]])],
  .required ["expression", "record_type", "rule_id", "rule_type", "severity"],
  .type [.object]]

/-- What the contract demands of a document. -/
def documentDemands : Contract := .all [
  .properties [("rule_set_version", textDemand), ("rules", .all [.items ruleDemands, .type [.array]])],
  .required ["rules"],
  .type [.object]]

/-- **The contract of the program** makes these demands. -/
theorem ofJson_contractJson : Contract.ofJson contractJson = .ok documentDemands := by rfl

theorem admits_text (s : String) : textDemand.Admits (.str s) :=
  Contract.admits_all (List.forall_mem_singleton.mpr (Contract.admits_type List.mem_cons_self rfl))

theorem admits_optionalText (s : String) : optionalTextDemand.Admits (.str s) :=
  Contract.admits_all (List.forall_mem_singleton.mpr
    (Contract.admits_type (List.mem_cons_of_mem _ List.mem_cons_self) rfl))

theorem admits_name {names : List String} {name : String} (mem : name ∈ names) :
    (nameDemand names).Admits (.str name) := by
  refine Contract.admits_all (List.forall_mem_cons.mpr ⟨Contract.admits_enum ?_, List.forall_mem_singleton.mpr ?_⟩)
  · exact List.mem_map_of_mem mem
  · exact Contract.admits_type List.mem_cons_self rfl

/-- The version of a rule is not below the least that the contract allows. -/
theorem natural_not_below_zero (n : Nat) : (Json.Number.whole n).below (.float .zero) = false := by
  have zero : (Json.Number.float .zero).ratio.1 = 0 := rfl
  have least : ¬(n : Int) * (Json.Number.float .zero).ratio.2 < (Json.Number.float .zero).ratio.1 * (1 : Nat) := by
    rw [zero, Int.zero_mul, Int.not_lt]
    exact Int.mul_nonneg (Int.natCast_nonneg _) (Int.natCast_nonneg _)
  exact decide_eq_false least

end RuleSet

/-! ## Written rules -/

namespace Rule

/-- The document has the members of the rule, and no name twice. -/
structure IsWritten (r : Rule) (j : Json) : Prop where
  structured : j.IsStructure
  id : j.get? "rule_id" = some (.str r.id)
  recordType : j.get? "record_type" = some (.str r.recordType.key)
  ruleType : j.get? "rule_type" = some (.str r.ruleType.name)
  expression : j.get? "expression" = some (.str r.expression)
  severity : j.get? "severity" = some (.str r.severity.name)
  template : j.get? "error_message" = some (.str r.template)
  active : j.get? "active" = some (.bool r.active)
  version : j.get? "version" = some (.ofNat r.version)
  updatedAt : j.get? "updated_at" = some (.str r.updatedAt)
  name : j.get? "rule_name" = r.name.map .str
  description : j.get? "description" = r.description.map .str

theorem nodup_names (r : Rule) : (r.toJson.entries.map Prod.fst).Nodup := by
  obtain ⟨_, _, _, _, _, _, _, _, _, name, description⟩ := r
  cases name <;> cases description <;> simp [toJson, Json.entries, Json.member?]

/-- A name and a description stand in the document where there is one. -/
theorem optional_members (r : Rule) : r.toJson.get? "rule_name" = r.name.map .str ∧
    r.toJson.get? "description" = r.description.map .str := by
  obtain ⟨_, _, _, _, _, _, _, _, _, name, description⟩ := r
  cases name <;> cases description <;> exact ⟨rfl, rfl⟩

/-- The document of a rule has its members, however they are arranged. -/
theorem isWritten_arranged {arrange : Json → Json} (h : Arranges arrange) (r : Rule) :
    r.IsWritten (arrange r.toJson) where
  structured := h.isStructure r.nodup_names
  id := (h.get?_entries r.nodup_names _).trans (congrArg some (h.str _))
  recordType := (h.get?_entries r.nodup_names _).trans (congrArg some (h.str _))
  ruleType := (h.get?_entries r.nodup_names _).trans (congrArg some (h.str _))
  expression := (h.get?_entries r.nodup_names _).trans (congrArg some (h.str _))
  severity := (h.get?_entries r.nodup_names _).trans (congrArg some (h.str _))
  template := (h.get?_entries r.nodup_names _).trans (congrArg some (h.str _))
  active := (h.get?_entries r.nodup_names _).trans (congrArg some (h.bool _))
  version := (h.get?_entries r.nodup_names _).trans (congrArg some (h.num _))
  updatedAt := (h.get?_entries r.nodup_names _).trans (congrArg some (h.str _))
  name := by
    rw [h.get?_entries r.nodup_names, (optional_members r).1, Option.map_map, h.comp_str]
  description := by
    rw [h.get?_entries r.nodup_names, (optional_members r).2, Option.map_map, h.comp_str]

/-- The document of a rule can be read, if its version fits 64 bits. -/
theorem legible_toJson {r : Rule} {depth : Nat} (fits : r.version < Nat.pow 2 64) :
    Json.Legible (depth + 1) r.toJson := by
  have optional (name : String) (text : Option String) :
      ∀ m ∈ Json.member? name (text.map .str), Json.Legible depth m.2 := by
    cases text with
    | none => exact nofun
    | some text => exact List.forall_mem_singleton.mpr (.str text)
  refine .obj (List.forall_mem_append.mpr ⟨List.forall_mem_append.mpr ⟨?_, optional _ _⟩, optional _ _⟩)
  simp only [List.forall_mem_cons, List.not_mem_nil]
  exact ⟨.str _, .str _, .str _, .str _, .str _, .str _, .bool _, Json.legible_ofNat fits, .str _, nofun⟩

variable {r : Rule} {j : Json}

theorem readRecordType_key (t : RecordType) : readRecordType (.str t.key) = .ok t := by
  cases t <;> rfl

theorem readRuleType_name (t : RuleType) : readRuleType (.str t.name) = .ok t := by
  cases t <;> rfl

theorem readSeverity_name (s : Severity) : readSeverity (.str s.name) = .ok s := by
  cases s <;> rfl

theorem readNat_ofNat (n : Nat) : Json.readNat (.ofNat n) = .ok n := by
  rw [Json.ofNat, Json.readNat, if_neg (by omega), Int.toNat_natCast]

/-- **A written rule is read.** -/
theorem IsWritten.read (h : r.IsWritten j) : Rule.read j = .ok r := by
  have optional (name : String) (text : Option String) (found : j.get? name = text.map .str)
      (fine : ∀ s, checkMember name (.str s) = .ok ()) : ∀ v, j.get? name = some v → checkMember name v = .ok () := by
    cases text with
    | none => exact fun v other => nomatch found.symm.trans other
    | some text => exact Json.of_found found (fine text)
  have checks : ∀ name ∈ memberNames, ∀ v, j.get? name = some v → checkMember name v = .ok () := by
    simp only [memberNames, List.forall_mem_cons, List.not_mem_nil]
    refine ⟨Json.of_found h.id rfl, Json.of_found h.recordType ?_, Json.of_found h.ruleType ?_,
      Json.of_found h.expression rfl, Json.of_found h.severity ?_, Json.of_found h.template rfl,
      Json.of_found h.active rfl, Json.of_found h.version ?_, Json.of_found h.updatedAt rfl,
      optional _ r.name h.name fun _ => rfl, optional _ r.description h.description fun _ => rfl, nofun⟩
    · simp [checkMember, readRecordType_key, Except.map]
    · simp [checkMember, readRuleType_name, Except.map]
    · simp [checkMember, readSeverity_name, Except.map]
    · simp [checkMember, readNat_ofNat, Except.map]
  obtain ⟨m, read, found⟩ : ∃ m, Json.Members.read "Rule" memberNames checkMember j = .ok m ∧
      ∀ name ∈ memberNames, m.find? name = j.get? name := Json.Members.read_obj h.structured checks
  have there {name : String} {v : Option Json} (inside : name ∈ memberNames) (here : j.get? name = v) :
      m.find? name = v := (found name inside).trans here
  have id : m.required "rule_id" Json.readString = .ok r.id :=
    Json.Members.required_of_found (there (by decide) h.id)
  have recordType : m.required "record_type" readRecordType = .ok r.recordType :=
    (Json.Members.required_of_found (there (by decide) h.recordType)).trans (readRecordType_key _)
  have ruleType : m.required "rule_type" readRuleType = .ok r.ruleType :=
    (Json.Members.required_of_found (there (by decide) h.ruleType)).trans (readRuleType_name _)
  have expression : m.required "expression" Json.readString = .ok r.expression :=
    Json.Members.required_of_found (there (by decide) h.expression)
  have severity : m.required "severity" readSeverity = .ok r.severity :=
    (Json.Members.required_of_found (there (by decide) h.severity)).trans (readSeverity_name _)
  have template : m.defaulted "error_message" "" Json.readString = .ok r.template :=
    Json.Members.defaulted_of_found (there (by decide) h.template)
  have active : m.defaulted "active" true Json.readBool = .ok r.active :=
    Json.Members.defaulted_of_found (there (by decide) h.active)
  have version : m.defaulted "version" 0 Json.readNat = .ok r.version :=
    (Json.Members.defaulted_of_found (there (by decide) h.version)).trans (readNat_ofNat _)
  have updatedAt : m.defaulted "updated_at" "" Json.readString = .ok r.updatedAt :=
    Json.Members.defaulted_of_found (there (by decide) h.updatedAt)
  have name := Json.Members.optional_of_found (there (by decide) h.name)
  have description := Json.Members.optional_of_found (there (by decide) h.description)
  simp only [Rule.read, read, id, recordType, ruleType, expression, severity, template, active, version, updatedAt, name,
    description, bind, Except.bind, pure, Except.pure]

/-- **The contract admits a written rule.** -/
theorem IsWritten.admitted (h : r.IsWritten j) : RuleSet.ruleDemands.Admits j := by
  have optional (name : String) (text : Option String) (found : j.get? name = text.map .str) :
      ∀ v, j.get? name = some v → RuleSet.optionalTextDemand.Admits v := by
    cases text with
    | none => exact fun v other => nomatch found.symm.trans other
    | some text => exact Json.of_found found (RuleSet.admits_optionalText text)
  refine Contract.admits_all (List.forall_mem_cons.mpr ⟨Contract.admits_properties ?_, List.forall_mem_cons.mpr
    ⟨Contract.admits_required ?_, List.forall_mem_singleton.mpr ?_⟩⟩)
  · simp only [List.forall_mem_cons, List.not_mem_nil]
    refine ⟨Json.of_found h.active ?_, optional _ r.description h.description, Json.of_found h.template ?_,
      Json.of_found h.expression ?_, Json.of_found h.recordType ?_, Json.of_found h.id ?_, optional _ r.name h.name,
      Json.of_found h.ruleType ?_, Json.of_found h.severity ?_, Json.of_found h.updatedAt ?_,
      Json.of_found h.version ?_, nofun⟩
    · exact Contract.admits_all (List.forall_mem_singleton.mpr (Contract.admits_type List.mem_cons_self rfl))
    · exact RuleSet.admits_text _
    · exact RuleSet.admits_text _
    · refine RuleSet.admits_name ?_
      cases r.recordType <;> decide
    · exact RuleSet.admits_text _
    · refine Contract.admits_all (List.forall_mem_singleton.mpr fun path => ?_)
      -- Each name is in one of the three lists and in no other.
      cases r.ruleType <;> rfl
    · refine RuleSet.admits_name ?_
      cases r.severity <;> decide
    · exact RuleSet.admits_text _
    · refine Contract.admits_all (List.forall_mem_cons.mpr ⟨?_, List.forall_mem_singleton.mpr ?_⟩)
      · exact Contract.admits_minimum (RuleSet.natural_not_below_zero r.version)
      · exact Contract.admits_type List.mem_cons_self rfl
  · simp only [List.forall_mem_cons, List.not_mem_nil]
    exact ⟨⟨_, h.expression⟩, ⟨_, h.recordType⟩, ⟨_, h.id⟩, ⟨_, h.ruleType⟩, ⟨_, h.severity⟩, nofun⟩
  · obtain ⟨members, rfl, -⟩ := h.structured
    exact Contract.admits_type List.mem_cons_self rfl

end Rule

/-! ## Written sets of rules -/

namespace RuleSet

/-- The document has the members of the set and its rules in their order. -/
structure IsWritten (s : RuleSet) (j : Json) : Prop where
  structured : j.IsStructure
  contract : j.get? "rule_set_version" = some (.str s.contract)
  rules : ∃ items, j.get? "rules" = some (.arr items) ∧ List.Forall₂ Rule.IsWritten s.rules items

variable {s : RuleSet} {j : Json}

theorem isWritten_arranged {arrange : Json → Json} (h : Arranges arrange) (s : RuleSet) :
    s.IsWritten (arrange s.toJson) := by
  have distinct : (s.toJson.entries.map Prod.fst).Nodup := by simp [toJson, Json.entries]
  refine ⟨h.isStructure distinct, ?_, s.rules.map (arrange ∘ Rule.toJson), ?_, ?_⟩
  · exact (h.get?_entries distinct _).trans (congrArg some (h.str _))
  · rw [h.get?_entries distinct, ← List.map_map, ← h.arr]
    rfl
  · exact List.forall₂_map_right_iff.mpr (List.forall₂_same.mpr fun r _ => r.isWritten_arranged h)

theorem readRules_written {rules : List Rule} {items : List Json} (h : List.Forall₂ Rule.IsWritten rules items) :
    readRules (.arr items) = .ok rules := by
  rw [readRules, Json.readList]
  induction h with
  | nil => rfl
  | cons first _ ih =>
    rw [List.mapM_cons, first.read, ih]
    rfl

theorem forall_admitted {rules : List Rule} {items : List Json} (h : List.Forall₂ Rule.IsWritten rules items) :
    ∀ item ∈ items, ruleDemands.Admits item := by
  induction h with
  | nil => exact nofun
  | cons first _ ih => exact List.forall_mem_cons.mpr ⟨first.admitted, ih⟩

/-- **A written set of rules is read.** -/
theorem IsWritten.read (h : s.IsWritten j) : RuleSet.read j = .ok s := by
  obtain ⟨items, found, written⟩ := h.rules
  have rules := readRules_written written
  have checks : ∀ name ∈ ["rule_set_version", "rules"], ∀ v, j.get? name = some v → checkMember name v = .ok () := by
    simp only [List.forall_mem_cons, List.not_mem_nil]
    refine ⟨Json.of_found h.contract rfl, Json.of_found found ?_, nofun⟩
    simp [checkMember, rules, Except.map]
  obtain ⟨m, read, same⟩ : ∃ m, Json.Members.read "RuleSet" ["rule_set_version", "rules"] checkMember j = .ok m ∧
      ∀ name ∈ ["rule_set_version", "rules"], m.find? name = j.get? name :=
    Json.Members.read_obj h.structured checks
  have contract : m.defaulted "rule_set_version" supportedContract Json.readString = .ok s.contract :=
    Json.Members.defaulted_of_found ((same _ (by decide)).trans h.contract)
  have rules : m.required "rules" readRules = .ok s.rules :=
    (Json.Members.required_of_found ((same _ (by decide)).trans found)).trans rules
  simp only [RuleSet.read, read, contract, rules, bind, Except.bind, pure, Except.pure]

/-- **The contract admits a written set of rules.** -/
theorem IsWritten.admitted (h : s.IsWritten j) : documentDemands.Admits j := by
  obtain ⟨items, found, written⟩ := h.rules
  refine Contract.admits_all (List.forall_mem_cons.mpr ⟨Contract.admits_properties ?_, List.forall_mem_cons.mpr
    ⟨Contract.admits_required (List.forall_mem_singleton.mpr ⟨_, found⟩), List.forall_mem_singleton.mpr ?_⟩⟩)
  · refine List.forall_mem_cons.mpr ⟨Json.of_found h.contract (admits_text _), List.forall_mem_singleton.mpr ?_⟩
    refine Json.of_found found (Contract.admits_all (List.forall_mem_cons.mpr ⟨Contract.admits_items ?_, ?_⟩))
    · exact forall_admitted written
    · exact List.forall_mem_singleton.mpr (Contract.admits_type List.mem_cons_self rfl)
  · obtain ⟨members, rfl, -⟩ := h.structured
    exact Contract.admits_type List.mem_cons_self rfl

/-! ## Checking documents -/

/-- What the check of a document says about the rules that it was written from. -/
structure Judged (rules : List Rule) (outcome : Except Report ValidRuleSet) : Prop where
  /-- The document passes exactly when its rules are sound. -/
  accepted : (∃ v, outcome = .ok v) ↔ Sound rules
  /-- What passes is the rules in their order, with the warnings in theirs. -/
  kept : ∀ v, outcome = .ok v → v.ruleSet = ofRules rules ∧ v.warnings = warningsFrom 0 rules
  /-- What does not pass has an error. -/
  refused : ∀ report, outcome = .error report → report.errors ≠ []

variable {rules : List Rule}

/-- A written set of rules breaks nothing of the contract. -/
theorem IsWritten.structuralReport (h : s.IsWritten j) : structuralReport contractJson j = .ok .empty := by
  simp only [RuleSet.structuralReport, ofJson_contractJson, bind, Except.bind, h.admitted [], List.map_nil]
  rfl

/-- A document with the members of rules is judged by these rules alone. -/
theorem IsWritten.judged (h : (ofRules rules).IsWritten j) : Judged rules (validate contractJson j) := by
  have outcome : validate contractJson j = if (ofRules rules).semanticReport.isOk then
      .ok ⟨ofRules rules, (ofRules rules).semanticReport.warnings⟩ else .error (ofRules rules).semanticReport := by
    rw [validate, h.structuralReport]
    simp only [h.read]
    rfl
  rw [outcome]
  cases ok : (ofRules rules).semanticReport.isOk with
  | true =>
    have sound := isOk_semanticReport_iff.mp ok
    refine ⟨⟨fun _ => sound, fun _ => ⟨_, rfl⟩⟩, fun v same => ?_, nofun⟩
    cases same
    exact ⟨rfl, warnings_semanticReport⟩
  | false =>
    have unsound : ¬Sound rules := fun sound => Bool.false_ne_true (ok.symm.trans (isOk_semanticReport_iff.mpr sound))
    refine ⟨⟨nofun, fun sound => absurd sound unsound⟩, nofun, fun report same => ?_⟩
    cases same
    intro none
    rw [Report.isOk, none] at ok
    cases ok

theorem legible_toJson (fits : ∀ r ∈ rules, r.version < Nat.pow 2 64) (depth : Nat) :
    Json.Legible (depth + 3) (ofRules rules).toJson := by
  refine .obj (List.forall_mem_cons.mpr ⟨.str _, List.forall_mem_singleton.mpr (.arr fun j mem => ?_)⟩)
  obtain ⟨r, inside, rfl⟩ := List.mem_map.mp mem
  exact Rule.legible_toJson (fits r inside)

/--
**Rules come back from their document exactly when they are sound**, from the document as it was put together and from
its text.
-/
theorem validate_toJson (fits : ∀ r ∈ rules, r.version < Nat.pow 2 64) :
    Judged rules (validate contractJson (ofRules rules).toJson) ∧
      ∃ j, Json.ofString (ofRules rules).toJson.compact = .ok j ∧ Judged rules (validate contractJson j) := by
  have legible : Json.Legible (124 + 3) (ofRules rules).toJson := legible_toJson fits 124
  refine ⟨(isWritten_arranged Json.arranges_id (ofRules rules)).judged, (ofRules rules).toJson.sorted, ?_, ?_⟩
  · exact Json.ofString_compact legible
  · exact (isWritten_arranged Json.arranges_sorted (ofRules rules)).judged

/-- Two rules, of which the second is inactive and has a blank template. -/
theorem validate_toJson_inactive :
    let first : Rule := ⟨"R1", .sales, .range, "amount > 0", .critical, "must be \"positive\"", true, 18, "", none, none⟩
    let second : Rule := ⟨"R2", .expense, .business, "today() > date", .info, " ", false, 0, "", some "late", none⟩
    let rules := [first, second]
    (∀ r ∈ rules, r.version < Nat.pow 2 64) ∧ Sound rules ∧
      (∃ v, validate contractJson (ofRules rules).toJson = .ok v ∧ v.ruleSet.rules = rules ∧
        v.warnings = [inactiveWarning 1 second, templateWarning 1 second]) ∧
      ∃ j, Json.ofString (ofRules rules).toJson.compact = .ok j ∧ Judged rules (validate contractJson j) := by
  intro first second rules
  have fits : ∀ r ∈ rules, r.version < Nat.pow 2 64 := by decide
  have sound : Sound rules := ⟨by decide, by decide, by decide⟩
  obtain ⟨judged, read⟩ := validate_toJson fits
  obtain ⟨v, passes⟩ := judged.accepted.mpr sound
  obtain ⟨same, warnings⟩ := judged.kept v passes
  have about : warningsFrom 0 rules = [inactiveWarning 1 second, templateWarning 1 second] := by decide +kernel
  exact ⟨fits, sound, ⟨v, passes, congrArg RuleSet.rules same, warnings.trans about⟩, read⟩

end RuleSet

end RecordGate
