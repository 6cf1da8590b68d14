import DocOptions.Proofs.Schema.Accepted
import DocOptions.Proofs.Schema.Faults

/-! The rules that a table names. Whether a table is accepted depends on the registry only through
them: between two registries that have them all there is no difference, and a registry that lacks
some is refused for the first of those. -/

namespace DocOptions

/-- A field's naming of a rule. -/
structure RuleUse where
  schema : String
  field : String
  rule : String
  deriving DecidableEq

namespace Table

/-- The names of the rules of the fields, those of fields inside composites included. -/
def ruleNames : {shape : Shape} → Table shape → List String
  | _, nil => []
  | _, leaf spec _ next => spec.rules.map RuleSpec.name ++ next.ruleNames
  | _, composite spec _ _ inner next =>
    spec.rules.map RuleSpec.name ++ (inner.ruleNames ++ next.ruleNames)

/-- The uses of rules, in the order in which they are checked. -/
def ruleUses : {shape : Shape} → Table shape → (schema : String) → List RuleUse
  | _, nil, _ => []
  | _, leaf spec _ next, schema =>
    spec.rules.map (⟨schema, spec.ident, ·.name⟩) ++ next.ruleUses schema
  | _, composite spec _ name inner next, schema =>
    spec.rules.map (⟨schema, spec.ident, ·.name⟩) ++ (inner.ruleUses name ++ next.ruleUses schema)

theorem map_rule_ruleUses {shape : Shape} (table : Table shape) (schema : String) :
    (table.ruleUses schema).map RuleUse.rule = table.ruleNames := by
  induction table generalizing schema with
  | nil => rfl
  | leaf spec kind next ih =>
    rw [ruleUses, List.map_append, List.map_map, ih]
    rfl
  | composite spec kind name inner next innerIh ih =>
    rw [ruleUses, List.map_append, List.map_append, List.map_map, innerIh, ih]
    rfl

end Table

/-- Fails for a rule that is not registered. -/
def RuleRegistry.require (rules : RuleRegistry) (use : RuleUse) : Except SchemaError Unit :=
  if rules.contains use.rule then .ok () else .error (.unknownRule use.schema use.field use.rule)

section

variable {rules : RuleRegistry} {schema : String} {mode : Mode} {taken : List String}

theorem FieldSpec.verify_eq_requirements {spec : FieldSpec} (fresh : spec.name ∉ taken)
    (rules : RuleRegistry) (schema : String) :
    spec.verify rules schema taken =
      (spec.rules.map (RuleUse.mk schema spec.ident ·.name)).forM rules.require := by
  rw [verify, if_neg fresh]
  induction spec.rules with
  | nil => rfl
  | cons rule others ih =>
    rw [List.find?_cons, List.map_cons]
    change _ = rules.require _ >>= fun _ => List.forM _ _
    rw [← ih, RuleRegistry.require]
    cases rules.contains rule.name with
    | false => rfl
    | true => rfl

/-- Apart from its rules there is nothing about an accepted table that another registry could
refuse. -/
theorem Table.verify_eq_requirements {shape : Shape} {table : Table shape}
    (accepted : table.verify rules schema mode taken = .ok ()) (others : RuleRegistry) :
    table.verify others schema mode taken = (table.ruleUses schema).forM others.require := by
  induction table generalizing schema mode taken with
  | nil => rfl
  | leaf spec kind next ih =>
    obtain ⟨specOk, kindOk, nextOk⟩ := verify_leaf_ok_iff.mp accepted
    obtain ⟨fresh, -⟩ := FieldSpec.verify_ok_iff.mp specOk
    rw [verify, FieldSpec.verify_eq_requirements fresh, kindOk, ih nextOk, ruleUses]
    exact (List.forM_append ..).symm
  | composite spec kind name inner next innerIh ih =>
    obtain ⟨specOk, kindOk, innerOk, nextOk⟩ := verify_composite_ok_iff.mp accepted
    obtain ⟨fresh, -⟩ := FieldSpec.verify_ok_iff.mp specOk
    rw [verify, FieldSpec.verify_eq_requirements fresh, kindOk, innerIh innerOk, ih nextOk,
      ruleUses]
    exact ((List.forM_append ..).trans (congrArg _ (funext fun _ => List.forM_append ..))).symm

end

theorem RuleRegistry.require_ok_iff {rules : RuleRegistry} {use : RuleUse} :
    rules.require use = .ok () ↔ rules.contains use.rule = true := by
  unfold require
  split <;> simp_all

theorem Schema.verify_ok_iff_registered {shape : Shape} {schema : Schema shape}
    {rules : RuleRegistry} (accepted : schema.verify rules = .ok ()) (others : RuleRegistry) :
    schema.verify others = .ok () ↔
      ∀ name ∈ schema.table.ruleNames, others.contains name = true := by
  rw [verify, Table.verify_eq_requirements accepted, ← schema.table.map_rule_ruleUses schema.name,
    List.forall_mem_map]
  simp only [← RuleRegistry.require_ok_iff]
  exact forM_ok_iff

end DocOptions
