import RecordGate.Proofs.Rule.Documents

/-!
# Opening a rule document

The store of rules holds one rule under each id, and a rule put in takes the place of another. A document that is
accepted has no id twice, so its store holds all of its rules and nothing else (`Repository.Holds`): those of a record
type in the order of their ids, and every one under its own revision. The rules are those that the items of the document
are read as, one for each (`RuleSet.read_items`).

Main statement: `RuleFile.holds_document`.
-/

namespace RecordGate

/-! ## The store of rules with distinct ids -/

namespace Repository

/-- The store holds these rules, each once, and no others. -/
structure Holds (s : Repository) (rules : List Rule) : Prop where
  /-- The rules of a record type are those of the list. -/
  rulesFor : ∀ t, (s.rulesFor t).Perm (rules.filter (·.recordType = t))
  /-- They come in the order of their ids, no id twice. -/
  ascending : ∀ t, (s.rulesFor t).Pairwise fun a b => a.id < b.id
  revision : ∀ r ∈ rules, s.revision? r.id = some r.revision
  /-- Under other ids there is nothing. -/
  absent : ∀ id, (∀ r ∈ rules, r.id ≠ id) → s.revision? id = none
  /-- All rules together are those of the list, no id twice. -/
  ruleSet : s.ruleSet.rules.Perm rules ∧ (s.ruleSet.rules.map Rule.id).Nodup

variable {rules : List Rule} {id : String} {r : Rule}

theorem rules_ofRules (rules : List Rule) :
    (ofRules rules).rules = rules.foldl (fun s r => s.set r.id r) .empty := by
  have fill (s : Repository) : (rules.foldl upsert s).rules = rules.foldl (fun s r => s.set r.id r) s.rules := by
    induction rules generalizing s with
    | nil => rfl
    | cons r rest ih => exact ih (s.upsert r)
  exact fill empty

theorem get?_ofRules_of_absent (absent : ∀ r ∈ rules, r.id ≠ id) : (ofRules rules).get? id = none := by
  have fresh : id ∉ rules.map Rule.id := fun mem =>
    have ⟨r, inside, same⟩ := List.mem_map.mp mem
    absent r inside same
  rw [get?, rules_ofRules]
  exact Record.get?_fill_of_notMem fresh

/-- **No rule takes the place of another** where the ids are distinct. -/
theorem get?_ofRules (distinct : (rules.map Rule.id).Nodup) :
    (ofRules rules).get? id = some r ↔ r ∈ rules ∧ r.id = id := by
  have own {r : Rule} (inside : r ∈ rules) : (ofRules rules).get? r.id = some r := by
    rw [get?, rules_ofRules]
    exact Record.get?_fill distinct inside
  constructor
  · intro found
    by_cases there : ∃ q ∈ rules, q.id = id
    · obtain ⟨q, inside, rfl⟩ := there
      cases found.symm.trans (own inside)
      exact ⟨inside, rfl⟩
    · rw [get?_ofRules_of_absent fun q inside same => there ⟨q, inside, same⟩] at found
      cases found
  · rintro ⟨inside, rfl⟩
    exact own inside

/-- Every rule lies under its own id. -/
theorem id_of_mem_entries (distinct : (rules.map Rule.id).Nodup) {e : String × Rule}
    (mem : e ∈ (ofRules rules).rules.entries) : e.2.id = e.1 :=
  ((get?_ofRules distinct).mp (Record.mem_entries_iff.mp mem)).2

theorem ascending_values (distinct : (rules.map Rule.id).Nodup) :
    (ofRules rules).rules.values.Pairwise fun a b => a.id < b.id := by
  refine List.pairwise_map.mpr ((ofRules rules).rules.ascending.imp_of_mem fun ha hb less => ?_)
  rwa [id_of_mem_entries distinct ha, id_of_mem_entries distinct hb]

theorem nodup_of_ascending (ascending : rules.Pairwise fun a b => a.id < b.id) : (rules.map Rule.id).Nodup := by
  refine List.pairwise_map.mpr (ascending.imp fun less same => ?_)
  rw [same] at less
  exact String.lt_irrefl _ less

/-- **The store of rules with distinct ids holds exactly these rules.** -/
theorem perm_values (distinct : (rules.map Rule.id).Nodup) : (ofRules rules).rules.values.Perm rules := by
  refine (List.perm_ext_iff_of_nodup (nodup_of_ascending (ascending_values distinct)).of_map distinct.of_map).mpr
    fun r => ?_
  rw [Record.values, List.mem_map]
  constructor
  · rintro ⟨e, mem, rfl⟩
    exact ((get?_ofRules distinct).mp (Record.mem_entries_iff.mp mem)).1
  · intro inside
    exact ⟨(r.id, r), Record.mem_entries_iff.mpr ((get?_ofRules distinct).mpr ⟨inside, rfl⟩), rfl⟩

/-- Rules that are taken record type by record type are all taken, each once. -/
theorem perm_flatMap_recordType (rules : List Rule) :
    (RecordType.all.flatMap fun t => rules.filter (·.recordType = t)).Perm rules := by
  refine List.perm_iff_count.mpr fun r => ?_
  have level (t : RecordType) :
      (rules.filter (·.recordType = t)).count r = if r.recordType = t then rules.count r else 0 := by
    split
    · next own => exact List.count_filter (decide_eq_true own)
    · next other => exact List.count_eq_zero.mpr fun mem => other (of_decide_eq_true (List.mem_filter.mp mem).2)
  simp only [RecordType.all, List.flatMap_cons, List.flatMap_nil, List.count_append, level]
  cases r.recordType <;> simp

theorem holds_ofRules (distinct : (rules.map Rule.id).Nodup) : (ofRules rules).Holds rules := by
  have together : (ofRules rules).ruleSet.rules.Perm rules :=
    (perm_flatMap_recordType _).trans (perm_values distinct)
  constructor
  case rulesFor => exact fun t => (perm_values distinct).filter _
  case ascending => exact fun t => (ascending_values distinct).filter _
  case revision =>
    intro r inside
    rw [revision?, (get?_ofRules distinct).mpr ⟨inside, rfl⟩]
    rfl
  case absent =>
    intro id absent
    rw [revision?, get?_ofRules_of_absent absent]
    rfl
  case ruleSet => exact ⟨together, (together.map Rule.id).nodup_iff.mpr distinct⟩

end Repository

/-! ## The rules of a document -/

namespace RuleSet

/-- The items of a document that stand for rules. A document may also be written as an array of its members. -/
def items : Json → List Json
  | .obj members =>
    match (Json.obj members).get? "rules" with
    | some (.arr items) => items
    | _ => []
  | .arr (_ :: .arr items :: _) => items
  | _ => []

variable {contract document : Json} {s : RuleSet} {v : ValidRuleSet}

/-- A list of rules is read item by item. -/
theorem forall₂_of_readRules {j : Json} {rules : List Rule} (h : readRules j = .ok rules) :
    ∃ items, j = .arr items ∧ List.Forall₂ (fun item r => Rule.read item = .ok r) items rules := by
  cases j with
  | arr items =>
    refine ⟨items, rfl, ?_⟩
    change items.mapM Rule.read = .ok rules at h
    induction items generalizing rules with
    | nil =>
      cases h
      exact .nil
    | cons item rest ih =>
      rw [List.mapM_cons] at h
      obtain ⟨r, first, h⟩ := bind_eq_ok.mp h
      obtain ⟨others, read, same⟩ := bind_eq_ok.mp h
      cases same
      exact .cons first (ih read)
  | null | bool | num | str | obj => cases h

/-- What is found under the name of the rules are the items of the document. -/
theorem items_of_read {m : Json.Members} {found : List Json}
    (h : Json.Members.read "RuleSet" ["rule_set_version", "rules"] checkMember document = .ok m)
    (rules : m.find? "rules" = some (.arr found)) : items document = found := by
  rw [Json.Members.find?] at rules
  rcases Json.Members.entries_of_read h with ⟨members, rfl, entries⟩ | ⟨places, rfl, entries⟩
  · rw [entries, Json.Members.find?_filter_names (by decide)] at rules
    rw [items, Json.get?, rules]
  · rw [entries] at rules
    rcases places with _ | ⟨version, _ | ⟨place, others⟩⟩
    · cases rules
    · cases rules
    · cases rules
      rfl

/-- **Each item of a document is read as one rule**, and the rules stand in the order of the items. -/
theorem read_items (h : read document = .ok s) :
    List.Forall₂ (fun item r => Rule.read item = .ok r) (items document) s.rules := by
  obtain ⟨m, members, h⟩ := bind_eq_ok.mp h
  obtain ⟨_, -, h⟩ := bind_eq_ok.mp h
  obtain ⟨rules, required, same⟩ := bind_eq_ok.mp h
  cases same
  obtain ⟨j, found, listed⟩ := Json.Members.found_of_required required
  obtain ⟨_, rfl, each⟩ := forall₂_of_readRules listed
  rwa [items_of_read members found]

/-- Of what is accepted nothing has an error: it is what the document is read as, and its rules are sound. -/
theorem read_of_validate (h : validate contract document = .ok v) :
    read document = .ok v.ruleSet ∧ Sound v.ruleSet.rules := by
  rw [validate] at h
  split at h
  · cases h
  · split at h
    · cases h
    · split at h
      · cases h
      · next s read =>
        dsimp only at h
        split at h
        · next ok =>
          cases h
          refine ⟨read, ?_⟩
          rw [Report.isOk, List.isEmpty_iff, semanticReport, Report.errors_append, List.append_eq_nil_iff] at ok
          exact (errors_rulesReport_eq_nil_iff.mp ok.2).1
        · cases h

end RuleSet

open RuleSet in
/--
**Opening a rule document loses no rule.** Of a document that is accepted, under whatever contract, each item is read as
one rule, and the repository holds exactly these rules: those of a record type each once and in the order of their ids,
every one under its own revision, and all of them together.
-/
theorem RuleFile.holds_document {contract document : Json} {v : ValidRuleSet}
    (accepted : validate contract document = .ok v) :
    List.Forall₂ (fun item r => Rule.read item = .ok r) (items document) v.ruleSet.rules ∧
      (RuleFile.of v).store.Holds v.ruleSet.rules := by
  obtain ⟨read, sound⟩ := read_of_validate accepted
  exact ⟨read_items read, Repository.holds_ofRules sound.distinct⟩

open RuleSet in
/-- Ids that differ by a blank, and ids that are not in the order of their numbers. -/
theorem RuleFile.holds_document_unordered :
    let rule (id : String) (t : RecordType) (version : Nat) : Rule :=
      ⟨id, t, .range, "amount > 0", .critical, "", true, version, "", none, none⟩
    let rules := [rule "R2" .sales 1, rule "E1" .expense 2, rule "R10" .sales 3, rule " R2" .sales 4]
    let document := (ofRules rules).toJson
    ∃ v, validate contractJson document = .ok v ∧
      (List.Forall₂ (fun item r => Rule.read item = .ok r) (items document) v.ruleSet.rules ∧
        (RuleFile.of v).store.Holds v.ruleSet.rules) ∧
      (RuleFile.of v).store.rulesFor .sales = [rule " R2" .sales 4, rule "R10" .sales 3, rule "R2" .sales 1] ∧
      (RuleFile.of v).store.revision? "R2" = some ⟨1, ""⟩ ∧ (RuleFile.of v).store.revision? "R2 " = none := by
  intro rule rules document
  have sound : Sound rules := ⟨by decide, by decide, by decide⟩
  have judged : Judged rules (validate contractJson document) :=
    (isWritten_arranged Json.arranges_id (ofRules rules)).judged
  obtain ⟨v, accepted⟩ := judged.accepted.mpr sound
  have store : (RuleFile.of v).store = .ofRules rules :=
    congrArg (fun s : RuleSet => Repository.ofRules s.rules) (judged.kept v accepted).1
  refine ⟨v, accepted, RuleFile.holds_document accepted, ?_⟩
  rw [store]
  decide +kernel

end RecordGate
