import DocOptions.Plugin.Metrics
import DocOptions.Proofs.Plugin.Visits
import DocOptions.Proofs.Schema.RuleNames

/-! The walk of the metrics loader. It scans each interface and reads each method, and looks neither
at parameters nor at results. -/

namespace DocOptions.Metrics

variable (rules : RuleRegistry)

def methodVisit (interface : String) (method : Method) : Visit :=
  .reads MethodOptions.schema s!"{interface}.{method.name}" method.name method.comments

def interfaceVisits (interface : Interface) : List Visit :=
  .scans interface.name interface.comments :: interface.methods.map (methodVisit interface.name)

/-- The visits of a whole module. -/
def visits (source : SourceModule) : List Visit :=
  source.interfaces.flatMap interfaceVisits

def methodConfig (method : Method) : MethodConfig :=
  ⟨method.name,
    .ofRecord (backend.reading rules MethodOptions.schema method.name method.comments).value⟩

/-- What the loader makes of a module. -/
def configs (source : SourceModule) : List InterfaceConfig :=
  source.interfaces.map fun interface =>
    ⟨interface.name, interface.methods.map (methodConfig rules)⟩

theorem scope_ne : backend.scope ≠ "" := by decide

theorem loadMethod_eq (interface : String) (method : Method) :
    loadMethod rules interface method =
      backend.visiting rules [methodVisit interface method] (methodConfig rules method) := by
  rw [loadMethod, backend.decode_eq_visiting rules scope_ne]
  exact backend.visiting_return rules _ _ _

theorem loadInterface_eq (interface : Interface) :
    loadInterface rules interface = backend.visiting rules (interfaceVisits interface)
      ⟨interface.name, interface.methods.map (methodConfig rules)⟩ := by
  have scanned : backend.scan interface.name interface.comments =
      backend.visiting rules [.scans interface.name interface.comments] () :=
    backend.perform_eq_visiting rules (.scans interface.name interface.comments)
  rw [loadInterface, scanned]
  refine backend.visiting_bind rules ?_
  rw [backend.mapM_visiting_each rules (loadMethod_eq rules interface.name)]
  exact backend.visiting_return rules _ _ _

/-- The loader makes the visits of a module and returns its configuration. -/
theorem load_eq (source : SourceModule) :
    load rules source = backend.visiting rules (visits source) (configs rules source) :=
  backend.mapM_visiting rules (loadInterface_eq rules) source.interfaces

variable {rules}

theorem verify_methodOptions : MethodOptions.schema.verify rules = .ok () := by
  have standard : MethodOptions.schema.verify .standard = .ok () := rfl
  exact (Schema.verify_ok_iff_registered standard rules).mpr fun _ member => nomatch member

theorem accepted_visits (source : SourceModule) :
    ∀ visit ∈ visits source, visit.Accepted rules := by
  intro visit member
  obtain ⟨interface, -, inside⟩ := List.mem_flatMap.mp member
  rcases List.mem_cons.mp inside with rfl | inside
  · exact trivial
  · obtain ⟨method, -, rfl⟩ := List.mem_map.mp inside
    exact verify_methodOptions

/-- The loader always comes to an end. -/
theorem run_load (source : SourceModule) :
    (load rules source).run =
      .ok ((Visit.outcome backend rules (visits source)).map fun _ => configs rules source) := by
  rw [load_eq]
  exact (backend.run_visiting_ok_iff scope_ne).mpr ⟨accepted_visits source, rfl⟩

end DocOptions.Metrics
