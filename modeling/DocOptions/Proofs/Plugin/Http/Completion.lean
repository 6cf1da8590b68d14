import DocOptions.Proofs.Plugin.Http.Signatures
import DocOptions.Proofs.Text.Pieces

/-! What the loader fills in where the comments of a method leave something open, or give an empty
text or a zero for it. A served method always has a size limit, a context, an error and a carrier
for each parameter, and the parts of a wrapping path are there just when the path is. -/

namespace DocOptions.Http

open Text

/-- The parts of a path are what its dots divide, and no path has no parts. -/
structure WrapOptions.IsSplit (o : WrapOptions) : Prop where
  parts_eq_nil_iff : o.parts = [] ↔ o.path = ""
  undotted : ∀ part ∈ o.parts, '.' ∉ part.toList
  joined : o.path ≠ "" → ".".intercalate o.parts = o.path

/-- The options of a method after those that it leaves open are filled in. -/
structure MethodOptions.Completes (own : MethodOptions) (interface : InterfaceOptions)
    (completed : MethodOptions) : Prop where
  formMaxMemory : completed.formMaxMemory =
    if own.formMaxMemory = 0 then 32 * 1024 * 1024 else own.formMaxMemory
  limited : completed.formMaxMemory ≠ 0
  accept : completed.default.accept =
    if own.default.accept = "" then interface.default.accept else own.default.accept
  contentType : completed.default.contentType =
    if own.default.contentType = "" then interface.default.contentType else own.default.contentType
  requestPath : completed.wrapRequest.path = own.wrapRequest.path
  request : completed.wrapRequest.IsSplit
  responsePath : completed.wrapResponse.path = own.wrapResponse.path
  response : completed.wrapResponse.IsSplit

/-- A method with nothing left open, below the options of its interface. -/
structure MethodConfig.IsComplete (rules : RuleRegistry) (interface : InterfaceOptions)
    (method : Method) (config : MethodConfig) : Prop where
  name : config.name = method.name
  options : ∃ record, DecodesTo rules MethodOptions.schema method.name method.comments record ∧
    (MethodOptions.ofRecord record).Completes interface config.options
  context : ∃ before last after, method.params = before ++ last :: after ∧ last.isContext = true ∧
    (∀ param ∈ after, param.isContext = false) ∧ config.context = some last.name
  error : ∃ others last, method.results = others ++ [last] ∧ config.error = some last.name
  carried : ∀ param ∈ config.params, param.options.httpType ≠ ""

theorem WrapOptions.path_split (o : WrapOptions) : o.split.path = o.path := by
  rw [split]
  split <;> rfl

theorem WrapOptions.isSplit_split {o : WrapOptions} (unsplit : o.parts = []) : o.split.IsSplit := by
  cases pathless : o.path.isEmpty with
  | true =>
    have same : o.split = o := if_pos pathless
    have empty : o.path = "" := String.isEmpty_iff.mp pathless
    rw [same]
    exact ⟨iff_of_true unsplit empty, unsplit ▸ List.forall_mem_nil _,
      fun written => absurd empty written⟩
  | false =>
    have path : o.path ≠ "" := by simpa using pathless
    have parts : o.split = { o with parts := cut o.path '.' } :=
      if_neg (Bool.eq_false_iff.mp pathless)
    rw [parts]
    refine ⟨iff_of_false ?_ path, ?_, fun _ => ?_⟩
    · exact mt List.map_eq_nil_iff.mp (pieces_ne_nil _ _)
    · exact fun part listed dot => ne_of_mem_cut listed dot rfl
    · exact intercalate_cut rfl o.path

theorem completes_complete (record : MethodOptions.table.shape.Record)
    (interface : InterfaceOptions) :
    (MethodOptions.ofRecord record).Completes interface
      ((MethodOptions.ofRecord record).complete interface) where
  formMaxMemory := rfl
  limited := by
    have default : defaultFormMaxMemory ≠ 0 := by decide
    rw [MethodOptions.complete]
    split <;> assumption
  accept := if_congr String.isEmpty_iff rfl rfl
  contentType := if_congr String.isEmpty_iff rfl rfl
  requestPath := WrapOptions.path_split _
  request := WrapOptions.isSplit_split rfl
  responsePath := WrapOptions.path_split _
  response := WrapOptions.isSplit_split rfl

section LastNamed

variable {property : Variable → Bool} {vars : List Variable}

theorem exists_last (held : ∃ var ∈ vars, property var = true) :
    ∃ before last after, vars = before ++ last :: after ∧ property last = true ∧
      ∀ var ∈ after, property var = false := by
  induction vars using List.reverseRecOn with
  | nil => exact absurd held (by simp)
  | append_singleton vars var ih =>
    cases own : property var with
    | true => exact ⟨vars, var, [], rfl, own, List.forall_mem_nil _⟩
    | false =>
      obtain ⟨other, member, holds⟩ := held
      have earlier : other ∈ vars := by
        rcases List.mem_append.mp member with earlier | here
        · exact earlier
        · cases List.mem_singleton.mp here
          exact absurd (own.symm.trans holds) Bool.false_ne_true
      obtain ⟨before, last, after, rfl, isLast, free⟩ := ih ⟨other, earlier, holds⟩
      refine ⟨before, last, after ++ [var], by simp, isLast, ?_⟩
      exact List.forall_mem_append.mpr ⟨free, List.forall_mem_singleton.mpr own⟩

theorem lastNamed_append {last : Variable} (isLast : property last = true) {after : List Variable}
    (free : ∀ var ∈ after, property var = false) (before : List Variable) :
    lastNamed property (before ++ last :: after) = some last.name := by
  have unheld : after.filter property = [] := List.filter_eq_nil_iff.mpr fun var member =>
    Bool.eq_false_iff.mp (free var member)
  rw [lastNamed, List.filter_append, List.filter_cons_of_pos isLast, unheld, List.getLast?_concat,
    Option.map_some]

end LastNamed

theorem ParamConfig.Settles.httpType_ne {path : String} {declared : Variable} {own : ParamOptions}
    {param : ParamConfig} (settles : param.Settles path declared own) :
    param.options.httpType ≠ "" := by
  cases placed : param.pathIndex with
  | none =>
    rw [(settles.free placed).1]
    split
    · decide
    · assumption
  | some j =>
    rw [(settles.tied j placed).1]
    decide

variable {rules : RuleRegistry}

theorem isComplete_methodConfig (registered : HasRules rules) (interface : InterfaceOptions)
    {method : Method} (served : IsServed method) :
    (methodConfig rules interface method).IsComplete rules interface method := by
  obtain ⟨⟨first, rest, params, isContext⟩, others, last, results, isError⟩ := served
  have accepted := verify_methodOptions_iff.mpr registered
  constructor
  case name => rfl
  case options =>
    exact ⟨_, decodesTo_reading accepted method.name method.comments, completes_complete _ _⟩
  case context =>
    have found : ∃ param ∈ method.params, param.isContext = true :=
      ⟨first, params ▸ List.mem_cons_self, isContext⟩
    obtain ⟨before, last, after, declared, isLast, free⟩ := exists_last found
    refine ⟨before, last, after, declared, isLast, free, ?_⟩
    rw [methodConfig, MethodConfig.of, declared]
    exact lastNamed_append isLast free before
  case error =>
    refine ⟨others, last, results, ?_⟩
    rw [methodConfig, MethodConfig.of, results]
    exact lastNamed_append isError (List.forall_mem_nil _) others
  case carried =>
    intro param member
    rw [methodConfig, MethodConfig.of, bindPath_map] at member
    obtain ⟨declared, -, rfl⟩ := List.mem_map.mp member
    exact (settles_paramConfig _ declared).httpType_ne

theorem value_of_run_load {source : SourceModule} {loaded : Loaded (List InterfaceConfig)}
    (done : (load rules source).run = .ok loaded) :
    loaded.value = source.interfaces.map (interfaceConfig rules) := by
  rw [load_eq, backend.run_visiting_ok_iff scope_ne] at done
  rw [done.2]
  rfl

/-- In a loaded module nothing that a method leaves open stays open. -/
theorem run_load_completes {source : SourceModule} {loaded : Loaded (List InterfaceConfig)}
    (done : (load rules source).run = .ok loaded) :
    List.Forall₂ (fun interface config =>
        (∃ record, DecodesTo rules InterfaceOptions.schema interface.name interface.comments
          record ∧ config.options = .ofRecord record) ∧
        List.Forall₂ (MethodConfig.IsComplete rules config.options)
          (interface.methods.filter (IsServed ·)) config.methods)
      source.interfaces loaded.value := by
  rw [value_of_run_load done, List.forall₂_map_right_iff, List.forall₂_same]
  intro interface declared
  refine ⟨⟨_, decodesTo_reading verify_interfaceOptions _ _, rfl⟩, ?_⟩
  rw [interfaceConfig, List.forall₂_map_right_iff, List.forall₂_same]
  intro method member
  obtain ⟨inside, served⟩ := List.mem_filter.mp member
  exact isComplete_methodConfig (hasRules_of_run_load done declared inside) _
    (of_decide_eq_true served)

/-- Zero, an empty text and dots at both ends of a path, and two contexts. -/
theorem run_load_completes_empty_texts :
    let declare (name : String) (isContext isError : Bool) : Variable :=
      ⟨name, "", isContext, isError, [⟨"// @http-type", none⟩]⟩
    let source : SourceModule := ⟨[⟨"Users", none, [⟨"// @http-default-accept text/plain", none⟩],
      [⟨"Put", none, [⟨"// @http-form-max-memory 0", none⟩, ⟨"// @http-default-accept \"\"", none⟩,
          ⟨"// @http-wrap-req-path .data.", none⟩],
        [declare "ctx" true false, declare "user" false false, declare "tenant" true false],
        [declare "early" false true, declare "err" false true]⟩]⟩]⟩
    ∃ loaded, (load .standard source).run = .ok loaded ∧
      List.Forall₂ (fun interface config =>
          (∃ record, DecodesTo .standard InterfaceOptions.schema interface.name interface.comments
            record ∧ config.options = .ofRecord record) ∧
          List.Forall₂ (MethodConfig.IsComplete .standard config.options)
            (interface.methods.filter (IsServed ·)) config.methods)
        source.interfaces loaded.value ∧
      (loaded.value.flatMap fun config => config.methods.map fun method =>
        (method.options.formMaxMemory, method.options.default.accept,
          method.options.wrapRequest.parts, method.context, method.error)) =
        [(33554432, "text/plain", ["", "data", ""], some "tenant", some "err")] := by
  intro declare source
  have registered : HasRules .standard := ⟨rfl, rfl⟩
  have done := run_load registered source
  refine ⟨_, done, run_load_completes done, ?_⟩
  change (configs .standard source).flatMap _ = _
  decide +kernel

end DocOptions.Http
