import DocOptions.Proofs.Plugin.Failures
import DocOptions.Proofs.Plugin.Traces

/-! The trace of a whole HTTP run. A declaration is read at the names that lead to it and with the
schema of its kind. Where names are told apart these addresses differ, and no field is called like a
schema, so all that the declarations trace by themselves is found in the trace of the run. -/

namespace DocOptions

/-- Names beside each other that can be told apart in a path. -/
def NamesApart (names : List String) : Prop :=
  names.Nodup ∧ ∀ name ∈ names, '.' ∉ name.toList

instance (names : List String) : Decidable (NamesApart names) :=
  inferInstanceAs (Decidable (_ ∧ _))

def Method.NamedApart (method : Method) : Prop :=
  NamesApart (method.params.map (·.name)) ∧ NamesApart (method.results.map (·.name))

instance (method : Method) : Decidable method.NamedApart :=
  inferInstanceAs (Decidable (_ ∧ _))

def Interface.NamedApart (interface : Interface) : Prop :=
  NamesApart (interface.methods.map (·.name)) ∧ ∀ method ∈ interface.methods, method.NamedApart

instance (interface : Interface) : Decidable interface.NamedApart :=
  inferInstanceAs (Decidable (_ ∧ _))

/-- Whether the names of the interfaces, of the methods of each and of the parameters and the
results of these can be told apart. A parameter may have the name of a result. -/
def SourceModule.NamedApart (source : SourceModule) : Prop :=
  NamesApart (source.interfaces.map (·.name)) ∧
    ∀ interface ∈ source.interfaces, interface.NamedApart

instance (source : SourceModule) : Decidable source.NamedApart :=
  inferInstanceAs (Decidable (_ ∧ _))

namespace Http

variable (rules : RuleRegistry)

/-- The paths of the declarations of a module that are decoded, each with what the decode traces. -/
def ownTraces (source : SourceModule) : List (String × Trace) :=
  source.interfaces.flatMap fun interface =>
    (interface.name,
        backend.ownTrace rules InterfaceOptions.schema interface.name interface.comments) ::
      interface.methods.flatMap fun method =>
        let path := s!"{interface.name}.{method.name}"
        (path, backend.ownTrace rules MethodOptions.schema method.name method.comments) ::
          if TakesContext method then
            (method.params.map fun param => (s!"{path}.{param.name}",
              backend.ownTrace rules ParamOptions.schema param.name param.comments)) ++
            if ReturnsError method then
              method.results.map fun result => (s!"{path}.{result.name}",
                backend.ownTrace rules ResultOptions.schema result.name result.comments)
            else []
          else []

theorem ownTraces_visits (source : SourceModule) :
    (visits source).flatMap (Visit.ownTraces backend rules) = ownTraces rules source := by
  rw [flatMap_visits, ownTraces]
  simp only [List.map_eq_flatMap]
  rfl

/-- The names of the schemas that declarations are read with. -/
def schemas : List String :=
  [InterfaceOptions.schema.name, MethodOptions.schema.name, ParamOptions.schema.name,
    ResultOptions.schema.name]

/-- The fields of these schemas. -/
def idents : List String :=
  InterfaceOptions.table.allIdents ++ MethodOptions.table.allIdents ++
    ParamOptions.table.allIdents ++ ResultOptions.table.allIdents

theorem toldApart : ToldApart schemas idents where
  fields := by decide +kernel
  schemas := by decide +kernel

theorem hasFields_visits (source : SourceModule) :
    ∀ visit ∈ visits source, visit.HasFields idents := by
  refine forall_visits source (fun _ _ _ ident own => ?_) (fun _ _ _ ident own => ?_)
    (fun _ _ _ ident own => ?_) (fun _ _ _ ident own => ?_) fun _ _ => trivial
  · exact List.mem_append_left _ (List.mem_append_left _ (List.mem_append_left _ own))
  · exact List.mem_append_left _ (List.mem_append_left _ (List.mem_append_right _ own))
  · exact List.mem_append_left _ (List.mem_append_right _ own)
  · exact List.mem_append_right _ own

def variableAddresses (schema : String) (vars : List Variable) : List (List String) :=
  vars.map fun var => [var.name, schema]

def methodAddresses (method : Method) : List (List String) :=
  [MethodOptions.schema.name] ::
    if TakesContext method then
      variableAddresses ParamOptions.schema.name method.params ++
      if ReturnsError method then variableAddresses ResultOptions.schema.name method.results
      else []
    else []

def interfaceAddresses (interface : Interface) : List (List String) :=
  [InterfaceOptions.schema.name] :: interface.methods.flatMap fun method =>
    (methodAddresses method).map (method.name :: ·)

/-- Where the declarations of a module are read. -/
def addresses (source : SourceModule) : List (List String) :=
  source.interfaces.flatMap fun interface =>
    (interfaceAddresses interface).map (interface.name :: ·)

theorem roots_visits (source : SourceModule) :
    (visits source).flatMap Visit.roots = (addresses source).map ".".intercalate := by
  rw [flatMap_visits]
  simp only [addresses, interfaceAddresses, methodAddresses, variableAddresses, List.map_cons,
    List.map_flatMap, List.map_append, apply_ite (List.map _), List.map_map, List.map_nil]
  simp only [List.map_eq_flatMap]
  rfl

/-- Below different names there are different addresses. -/
theorem nodup_flatMap_cons {α : Type} {items : List α} {name : α → String}
    (distinct : (items.map name).Nodup) {below : α → List (List String)}
    (each : ∀ item ∈ items, (below item).Nodup) :
    (items.flatMap fun item => (below item).map (name item :: ·)).Nodup := by
  refine List.nodup_flatMap.mpr
    ⟨fun item member => (each item member).map List.cons_injective, ?_⟩
  refine (List.pairwise_map.mp distinct).imp fun different address inside inside' => ?_
  obtain ⟨rest, -, rfl⟩ := List.mem_map.mp inside
  obtain ⟨rest', -, same⟩ := List.mem_map.mp inside'
  exact different (List.head_eq_of_cons_eq same).symm

variable {source : SourceModule} {interface : Interface} {method : Method} {vars : List Variable}

theorem areAddresses_variables (named : NamesApart (vars.map (·.name))) {schema : String}
    (member : schema ∈ schemas) :
    ∀ address ∈ variableAddresses schema vars, IsAddress schemas address :=
  List.forall_mem_map.mpr fun _ inside =>
    .cons (named.2 _ (List.mem_map_of_mem inside)) (.singleton toldApart member)

theorem areAddresses_method (apart : method.NamedApart) :
    ∀ address ∈ methodAddresses method, IsAddress schemas address := by
  refine List.forall_mem_cons.mpr ⟨.singleton toldApart (by decide), ?_⟩
  split
  · refine List.forall_mem_append.mpr ⟨areAddresses_variables apart.1 (by decide), ?_⟩
    split
    · exact areAddresses_variables apart.2 (by decide)
    · exact fun _ member => nomatch member
  · exact fun _ member => nomatch member

theorem areAddresses_interface (apart : interface.NamedApart) :
    ∀ address ∈ interfaceAddresses interface, IsAddress schemas address := by
  refine List.forall_mem_cons.mpr ⟨.singleton toldApart (by decide), fun address member => ?_⟩
  obtain ⟨method, served, inside⟩ := List.mem_flatMap.mp member
  obtain ⟨rest, listed, rfl⟩ := List.mem_map.mp inside
  exact .cons (apart.1.2 _ (List.mem_map_of_mem served))
    (areAddresses_method (apart.2 method served) rest listed)

theorem areAddresses (apart : source.NamedApart) :
    ∀ address ∈ addresses source, IsAddress schemas address := by
  intro address member
  obtain ⟨interface, declared, inside⟩ := List.mem_flatMap.mp member
  obtain ⟨rest, listed, rfl⟩ := List.mem_map.mp inside
  exact .cons (apart.1.2 _ (List.mem_map_of_mem declared))
    (areAddresses_interface (apart.2 interface declared) rest listed)

theorem nodup_variableAddresses (named : NamesApart (vars.map (·.name))) (schema : String) :
    (variableAddresses schema vars).Nodup := by
  have distinct := named.1.map fun _ _ (same : [_, schema] = [_, schema]) =>
    List.head_eq_of_cons_eq same
  rwa [List.map_map] at distinct

theorem nodup_methodAddresses (apart : method.NamedApart) : (methodAddresses method).Nodup := by
  have params := nodup_variableAddresses apart.1 ParamOptions.schema.name
  have results := nodup_variableAddresses apart.2 ResultOptions.schema.name
  have disjoint : (variableAddresses ParamOptions.schema.name method.params).Disjoint
      (variableAddresses ResultOptions.schema.name method.results) := by
    intro address inside inside'
    obtain ⟨param, -, rfl⟩ := List.mem_map.mp inside
    obtain ⟨result, -, same⟩ := List.mem_map.mp inside'
    exact absurd (List.head_eq_of_cons_eq (List.tail_eq_of_cons_eq same)) (by decide)
  have longer {schema : String} {vars : List Variable} :
      [MethodOptions.schema.name] ∉ variableAddresses schema vars := by
    simp [variableAddresses]
  unfold methodAddresses
  refine List.nodup_cons.mpr ?_
  split
  · split
    · exact ⟨List.not_mem_append longer longer, params.append results disjoint⟩
    · rw [List.append_nil]
      exact ⟨longer, params⟩
  · exact ⟨List.not_mem_nil, .nil⟩

theorem nodup_interfaceAddresses (apart : interface.NamedApart) :
    (interfaceAddresses interface).Nodup := by
  refine List.nodup_cons.mpr ⟨fun member => ?_, nodup_flatMap_cons apart.1.1 fun method served =>
    nodup_methodAddresses (apart.2 method served)⟩
  obtain ⟨method, served, inside⟩ := List.mem_flatMap.mp member
  obtain ⟨rest, listed, same⟩ := List.mem_map.mp inside
  exact (areAddresses_method (apart.2 method served) rest listed).ne_nil
    (List.tail_eq_of_cons_eq same)

theorem nodup_addresses (apart : source.NamedApart) : (addresses source).Nodup :=
  nodup_flatMap_cons apart.1.1 fun interface declared =>
    nodup_interfaceAddresses (apart.2 interface declared)

end Http

/-- Where names are told apart, the trace of an HTTP run has all that the declarations trace by
themselves, below their paths, and nothing else. A run comes to its end unless a rule is missing. -/
theorem run_load_traces {source : SourceModule} (apart : source.NamedApart)
    (rules : RuleRegistry) :
    (Http.HasRules rules ∨ (∀ interface ∈ source.interfaces, interface.methods = []) →
      ∃ loaded, (Http.load rules source).run = .ok loaded) ∧
    ∀ loaded, (Http.load rules source).run = .ok loaded →
      loaded.trace.Gathers (Http.ownTraces rules source) := by
  refine ⟨Http.exists_run_load, fun loaded done => ?_⟩
  rw [Http.load_eq] at done
  obtain ⟨accepted, rfl⟩ := (Backend.run_visiting_ok_iff Http.scope_ne).mp done
  have read : ReadApart rules Http.schemas Http.idents (Http.addresses source)
      (Http.visits source) :=
    { accepted
      fields := Http.hasFields_visits source
      told := Http.toldApart
      areAddresses := Http.areAddresses apart
      distinct := Http.nodup_addresses apart
      rooted := Http.roots_visits source }
  rw [← Http.ownTraces_visits]
  exact read.gathers_outcome Http.scope_ne

/-- A method has the name of a schema, and a parameter and a result that of a field. -/
theorem run_load_traces_field_names :
    let declare (name text : String) (isContext isError : Bool) : Variable :=
      ⟨name, "", isContext, isError, [⟨text, none⟩]⟩
    let source : SourceModule := ⟨[⟨"Users", none, [⟨"// @http-copy-dto-types", none⟩], [
      ⟨"InterfaceOptions", none, [⟨"// @http-path /", none⟩],
        [declare "ctx" "" true false, declare "copy_dto_types" "// @http-type query" false false],
        [declare "copy_dto_types" "// @http-flat" false false, declare "err" "" false true]⟩]⟩]⟩
    ∃ loaded, (Http.load .standard source).run = .ok loaded ∧
      loaded.trace.Gathers (Http.ownTraces .standard source) ∧
      loaded.trace.keys.Perm [
        "Users.InterfaceOptions.copy_dto_types",
        "Users.InterfaceOptions.MethodOptions.path",
        "Users.InterfaceOptions.copy_dto_types.ParamOptions.http_type",
        "Users.InterfaceOptions.copy_dto_types.ResultOptions.flat"] := by
  intro declare source
  have apart : source.NamedApart := by decide +kernel
  have registered : Http.HasRules .standard := ⟨rfl, rfl⟩
  obtain ⟨loads, traces⟩ := run_load_traces apart .standard
  obtain ⟨loaded, done⟩ := loads (.inl registered)
  have keys : ((Http.ownTraces .standard source).flatMap fun part => part.2.under part.1).map
      Prod.fst = [
        "Users.InterfaceOptions.copy_dto_types",
        "Users.InterfaceOptions.MethodOptions.path",
        "Users.InterfaceOptions.copy_dto_types.ParamOptions.http_type",
        "Users.InterfaceOptions.copy_dto_types.ResultOptions.flat"] := by decide +kernel
  exact ⟨loaded, done, traces loaded done, keys ▸ (traces loaded done).entries.map Prod.fst⟩

end DocOptions
