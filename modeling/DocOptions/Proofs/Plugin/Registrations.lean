import DocOptions.Plugin.Registry
import Mathlib.Data.List.Basic
import Mathlib.Data.List.Induction

/-! What the registries hold after any number of registrations. A registration replaces what was
registered under its name before. Plugins are listed in the order of their last registrations, so a
plugin that is replaced moves to the end; rules are listed by name. -/

namespace DocOptions

/-- The last of the calls that are made under a name. -/
def IsLastUnder {α : Type} (nameOf : α → String) (calls : List α) (name : String) (last : α) :
    Prop :=
  ∃ before after, calls = before ++ last :: after ∧ nameOf last = name ∧
    ∀ later ∈ after, nameOf later ≠ name

section

variable {α : Type} {nameOf : α → String} {calls : List α} {name : String} {last : α}

theorem IsLastUnder.mem (isLast : IsLastUnder nameOf calls name last) : last ∈ calls := by
  obtain ⟨before, after, rfl, -⟩ := isLast
  exact List.mem_append_right _ List.mem_cons_self

theorem not_isLastUnder_nil : ¬ IsLastUnder nameOf [] name last :=
  fun isLast => nomatch isLast.mem

/-- A further call is the last one under its own name and changes nothing under others. -/
theorem isLastUnder_concat_iff {call : α} :
    IsLastUnder nameOf (calls ++ [call]) name last ↔
      if name = nameOf call then last = call else IsLastUnder nameOf calls name last := by
  constructor
  · rintro ⟨before, after, split, rfl, free⟩
    -- The last call is the further one itself, or the further one stands behind it.
    rcases List.eq_nil_or_concat' after with rfl | ⟨after, final, rfl⟩
    · obtain ⟨rfl, same⟩ := List.append_inj' split rfl
      obtain rfl : call = last := List.head_eq_of_cons_eq same
      rw [if_pos rfl]
    · rw [← List.cons_append, ← List.append_assoc] at split
      obtain ⟨rfl, same⟩ := List.append_inj' split rfl
      obtain rfl : call = final := List.head_eq_of_cons_eq same
      obtain ⟨earlier, other⟩ := List.forall_mem_append.mp free
      have different : nameOf call ≠ nameOf last := other call List.mem_cons_self
      rw [if_neg different.symm]
      exact ⟨before, after, rfl, rfl, earlier⟩
  · intro isLast
    split at isLast
    · rename_i own
      subst isLast
      exact ⟨calls, [], rfl, own.symm, List.forall_mem_nil _⟩
    · rename_i other
      obtain ⟨before, after, rfl, named, free⟩ := isLast
      refine ⟨before, after ++ [call], by simp, named, ?_⟩
      exact List.forall_mem_append.mpr ⟨free, List.forall_mem_singleton.mpr (Ne.symm other)⟩

end

/-- What each call keeps of the state and the calls so far is kept by further calls. -/
theorem foldl_keeps {σ α : Type} (keeps : σ → List α → Prop) {step : σ → α → σ}
    (each : ∀ {state calls} call, keeps state calls → keeps (step state call) (calls ++ [call]))
    {state : σ} {calls : List α} (start : keeps state calls) (further : List α) :
    keeps (further.foldl step state) (calls ++ further) := by
  induction further using List.reverseRecOn with
  | nil => rwa [List.append_nil]
  | append_singleton further call ih =>
    rw [List.foldl_append, ← List.append_assoc]
    exact each call ih

/-- The names of calls, by the last call under each: the fewer calls were made since, the later it
stands. The order is strict, so each name is there once. -/
structure ByLast (calls names : List String) : Prop where
  mem : ∀ name, name ∈ names ↔ name ∈ calls
  order : names.Pairwise fun first second =>
    calls.reverse.idxOf second < calls.reverse.idxOf first

namespace ByLast

variable {calls names : List String}

theorem nil : ByLast [] [] := ⟨fun _ => Iff.rfl, .nil⟩

theorem nodup (byLast : ByLast calls names) : names.Nodup := by
  refine byLast.order.imp ?_
  rintro first _ before rfl
  exact Nat.lt_irrefl _ before

/-- A name that is called again moves to the end. -/
theorem concat (byLast : ByLast calls names) (name : String) :
    ByLast (calls ++ [name]) (names.filter (· != name) ++ [name]) := by
  have since : (calls ++ [name]).reverse = name :: calls.reverse := List.reverse_concat
  constructor
  case mem =>
    intro other
    by_cases same : other = name
    · simp [same]
    · simp [same, byLast.mem]
  case order =>
    rw [since, List.pairwise_append]
    refine ⟨?_, List.pairwise_singleton _ _, ?_⟩
    · refine (byLast.order.filter _).imp_of_mem fun {first second} left right before => ?_
      have firstOther := bne_iff_ne.mp (List.mem_filter.mp left).2
      have secondOther := bne_iff_ne.mp (List.mem_filter.mp right).2
      rw [List.idxOf_cons_ne _ firstOther.symm, List.idxOf_cons_ne _ secondOther.symm]
      omega
    · intro first left last right
      have firstOther := bne_iff_ne.mp (List.mem_filter.mp left).2
      rw [List.mem_singleton.mp right, List.idxOf_cons_self, List.idxOf_cons_ne _ firstOther.symm]
      omega

end ByLast

namespace PluginRegistry

/-- A registry holds what was registered. -/
structure Holds (registry : PluginRegistry) (calls : List Plugin) : Prop where
  names : ByLast (calls.map (·.name)) registry.names
  nodup : registry.names.Nodup
  get_ok_iff : ∀ name plugin, registry.get name = .ok plugin ↔
    IsLastUnder (·.name) calls name plugin
  get_error_iff : ∀ name error, registry.get name = .error error ↔
    error = .unknownPlugin name ∧ name ∉ calls.map (·.name)

variable {registry : PluginRegistry} {calls : List Plugin}

theorem names_register (registry : PluginRegistry) (plugin : Plugin) :
    (registry.register plugin).names =
      registry.names.filter (· != plugin.name) ++ [plugin.name] := by
  rw [names, names, register, List.map_append, List.filter_map]
  rfl

/-- A registration decides what is found under its name and nothing else. -/
theorem get_register (registry : PluginRegistry) (plugin : Plugin) (name : String) :
    (registry.register plugin).get name =
      if name = plugin.name then .ok plugin else registry.get name := by
  rw [get, get, register, List.find?_append]
  by_cases own : name = plugin.name
  · have replaced : (registry.plugins.filter (·.name != plugin.name)).find? (·.name == name) =
        none := by
      rw [List.find?_eq_none]
      intro other kept
      have different := bne_iff_ne.mp (List.mem_filter.mp kept).2
      simpa [own] using different
    rw [if_pos own, replaced]
    simp [own]
  · have kept : (registry.plugins.filter (·.name != plugin.name)).find? (·.name == name) =
        registry.plugins.find? (·.name == name) := by
      rw [List.find?_filter]
      congr 1
      funext other
      by_cases same : other.name = name
      · simp [same, own]
      · simp [same]
    have unnamed : [plugin].find? (·.name == name) = none := by simp [Ne.symm own]
    rw [if_neg own, kept, unnamed, Option.or_none]

theorem Holds.empty : PluginRegistry.empty.Holds [] where
  names := .nil
  nodup := .nil
  get_ok_iff name plugin := iff_of_false nofun not_isLastUnder_nil
  get_error_iff name error := by
    have missing : PluginRegistry.empty.get name = .error (.unknownPlugin name) := rfl
    rw [missing, Except.error.injEq, eq_comm]
    exact (and_iff_left List.not_mem_nil).symm

theorem Holds.register (holds : registry.Holds calls) (plugin : Plugin) :
    (registry.register plugin).Holds (calls ++ [plugin]) := by
  have names : ByLast ((calls ++ [plugin]).map (·.name)) (registry.register plugin).names := by
    rw [names_register, List.map_append]
    exact holds.names.concat plugin.name
  constructor
  case names => exact names
  case nodup => exact names.nodup
  case get_ok_iff =>
    intro name other
    rw [get_register, isLastUnder_concat_iff, ← holds.get_ok_iff]
    split
    · rw [Except.ok.injEq, eq_comm]
    · rfl
  case get_error_iff =>
    intro name error
    rw [get_register, List.map_append, List.map_singleton, List.mem_append, List.mem_singleton,
      not_or]
    split
    · rename_i own
      simp [own]
    · rename_i other
      rw [holds.get_error_iff]
      simp [other]

theorem Holds.foldl (holds : registry.Holds calls) (further : List Plugin) :
    (further.foldl PluginRegistry.register registry).Holds (calls ++ further) :=
  foldl_keeps PluginRegistry.Holds (fun plugin holds => Holds.register holds plugin) holds further

theorem Holds.builtin : PluginRegistry.builtin.Holds [.http, .metrics] :=
  (Holds.empty.register .http).register .metrics

end PluginRegistry

namespace RuleRegistry

/-- A registry holds what was registered, each rule with its name. -/
structure Holds (rules : RuleRegistry) (calls : List (String × Rule)) : Prop where
  get?_iff : ∀ name rule, rules.get? name = some rule ↔
    IsLastUnder Prod.fst calls name (name, rule)
  sorted : rules.keys.Pairwise (· < ·)
  mem_keys_iff : ∀ name, name ∈ rules.keys ↔ name ∈ calls.map Prod.fst

variable {rules : RuleRegistry} {calls : List (String × Rule)}

theorem Holds.empty : Holds ∅ [] where
  get?_iff _ _ := iff_of_false nofun not_isLastUnder_nil
  sorted := .nil
  mem_keys_iff _ := Iff.rfl

theorem Holds.insert (holds : rules.Holds calls) (name : String) (rule : Rule) :
    Holds (rules.insert name rule) (calls ++ [(name, rule)]) where
  get?_iff other found := by
    rw [TextMap.get?_insert, isLastUnder_concat_iff, ← holds.get?_iff]
    split
    · rename_i own
      simp [own, eq_comm]
    · rfl
  sorted := List.pairwise_map.mpr (rules.insert name rule).sorted
  mem_keys_iff other := by
    rw [← TextMap.contains_iff_mem_keys, TextMap.contains, TextMap.get?_insert, List.map_append,
      List.map_singleton, List.mem_append, List.mem_singleton, ← holds.mem_keys_iff,
      ← TextMap.contains_iff_mem_keys, TextMap.contains]
    split
    · rename_i own
      simp [own]
    · rename_i different
      simp [different]

theorem Holds.insertMany (holds : rules.Holds calls) (further : List (String × Rule)) :
    Holds (rules.insertMany further) (calls ++ further) :=
  foldl_keeps RuleRegistry.Holds (fun call holds => Holds.insert holds call.1 call.2) holds further

theorem Holds.standard : RuleRegistry.standard.Holds [("required", .required), ("in", .oneOf)] :=
  (Holds.empty.insert "required" .required).insert "in" .oneOf

end RuleRegistry

/-- Whatever is registered, a registry holds the last plugin or rule under each name, on top of what
it starts with. -/
theorem registries_hold (plugins : List Plugin) (rules : List (String × Rule)) :
    (plugins.foldl PluginRegistry.register .empty).Holds plugins ∧
    (plugins.foldl PluginRegistry.register .builtin).Holds ([.http, .metrics] ++ plugins) ∧
    RuleRegistry.Holds (TextMap.insertMany ∅ rules) rules ∧
    RuleRegistry.Holds (RuleRegistry.standard.insertMany rules)
      ([("required", .required), ("in", .oneOf)] ++ rules) := by
  refine ⟨?_, ?_, ?_, ?_⟩
  · exact PluginRegistry.Holds.empty.foldl plugins
  · exact PluginRegistry.Holds.builtin.foldl plugins
  · exact RuleRegistry.Holds.empty.insertMany rules
  · exact RuleRegistry.Holds.standard.insertMany rules

/-- A plugin that is replaced moves to the end. -/
example :
    (PluginRegistry.builtin.register { Plugin.metrics with name := "http" }).names =
      ["metrics-middleware", "http"] := by
  decide

end DocOptions
