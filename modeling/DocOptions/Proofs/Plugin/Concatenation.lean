import DocOptions.Proofs.Plugin.Http.Visits
import DocOptions.Proofs.Plugin.MetricsVisits

/-! Loading modules that are put together. A loader goes through the interfaces one by one and hands
nothing on from one to the next but its findings and its trace, so a module can be cut anywhere. -/

namespace DocOptions

/-- A load joins two loads: the values and the findings of the first stand before those of the
second, and the second decides on a path that both have traced. -/
structure Loaded.Joins {α : Type} (whole first second : Loaded (List α)) : Prop where
  value : whole.value = first.value ++ second.value
  diagnostics : whole.diagnostics.items = first.diagnostics.items ++ second.diagnostics.items
  trace : ∀ path, whole.trace.get? path = (second.trace.get? path).or (first.trace.get? path)

/-- A loader to which the interfaces around an interface make no difference. -/
structure LoadsEach {α : Type} (load : SourceModule → Loading (List α)) : Prop where
  joins (first second : List Interface) : ∃ a b whole, (load ⟨first⟩).run = .ok a ∧
    (load ⟨second⟩).run = .ok b ∧ (load ⟨first ++ second⟩).run = .ok whole ∧ whole.Joins a b
  isolated (before after : List Interface) (interface : Interface) : ∃ alone whole config,
    (load ⟨[interface]⟩).run = .ok alone ∧
    (load ⟨before ++ interface :: after⟩).run = .ok whole ∧
    alone.value = [config] ∧ whole.value[before.length]? = some config

namespace Loading

variable {α β : Type} {step : α → Loading β}

theorem run_mapM_append {first second : List α} {a b : Loaded (List β)}
    (done : (first.mapM step).run = .ok a) (done' : (second.mapM step).run = .ok b) :
    ∃ whole, ((first ++ second).mapM step).run = .ok whole ∧ whole.Joins a b := by
  have values : (do return a.value ++ (← second.mapM step) : Loading (List β)).run =
      .ok (b.andThen ⟨a.value ++ b.value, ∅, ∅⟩) :=
    run_bind_ok_iff.mpr ⟨b, _, done', rfl, rfl⟩
  refine ⟨a.andThen (b.andThen ⟨a.value ++ b.value, ∅, ∅⟩), ?_, ?_⟩
  · rw [List.mapM_append]
    exact run_bind_ok_iff.mpr ⟨a, _, done, values, rfl⟩
  · exact {
      value := rfl
      diagnostics := congrArg (a.diagnostics.items ++ ·) (List.append_nil _)
      trace := fun path => by simp [Loaded.andThen] }

theorem length_of_run_mapM {items : List α} {loaded : Loaded (List β)}
    (done : (items.mapM step).run = .ok loaded) : loaded.value.length = items.length := by
  induction items generalizing loaded with
  | nil =>
    obtain rfl := run_pure_ok_iff.mp done
    rfl
  | cons item rest ih =>
    rw [List.mapM_cons] at done
    obtain ⟨first, b, -, later, rfl⟩ := run_bind_ok_iff.mp done
    obtain ⟨others, d, loadedRest, last, rfl⟩ := run_bind_ok_iff.mp later
    obtain rfl := run_pure_ok_iff.mp last
    exact congrArg (· + 1) (ih loadedRest)

end Loading

theorem loadsEach_mapM {α : Type} {step : Interface → Loading α}
    (complete : ∀ interfaces : List Interface, ∃ loaded,
      (interfaces.mapM step).run = .ok loaded) :
    LoadsEach fun source => source.interfaces.mapM step where
  joins first second := by
    obtain ⟨a, done⟩ := complete first
    obtain ⟨b, done'⟩ := complete second
    obtain ⟨whole, together, joins⟩ := Loading.run_mapM_append done done'
    exact ⟨a, b, whole, done, done', together, joins⟩
  isolated before after interface := by
    obtain ⟨a, done⟩ := complete before
    obtain ⟨alone, single⟩ := complete [interface]
    obtain ⟨b, done'⟩ := complete after
    obtain ⟨rest, later, joins⟩ := Loading.run_mapM_append single done'
    obtain ⟨whole, together, joins'⟩ := Loading.run_mapM_append done later
    obtain ⟨config, own⟩ := List.length_eq_one_iff.mp (Loading.length_of_run_mapM single)
    refine ⟨alone, whole, config, single, together, own, ?_⟩
    rw [joins'.value, joins.value, own, ← Loading.length_of_run_mapM done,
      List.getElem?_append_right (Nat.le_refl _), Nat.sub_self]
    rfl

/-- With the HTTP rules registered, both loaders load two modules put together as they load the one
and then the other. -/
theorem run_load_concatenated {rules : RuleRegistry} (registered : Http.HasRules rules) :
    LoadsEach (Http.load rules) ∧ LoadsEach (Metrics.load rules) := by
  constructor
  · exact loadsEach_mapM fun interfaces => ⟨_, Http.run_load registered ⟨interfaces⟩⟩
  · exact loadsEach_mapM fun interfaces => ⟨_, Metrics.run_load ⟨interfaces⟩⟩

/-- Two interfaces of one name: the defaults of the first do not reach the method of the second, and
the second is traced over the first. -/
theorem run_load_concatenated_same_name :
    let interface (text : String) : Interface :=
      ⟨"Users", none, [⟨text, none⟩], [⟨"Get", none, [],
        [⟨"ctx", "", true, false, []⟩], [⟨"err", "", false, true, []⟩]⟩]⟩
    let first := [interface "// @http-default-accept json"]
    let second := [interface "// @http-default-content-type text"]
    ∃ a b whole, (Http.load .standard ⟨first⟩).run = .ok a ∧
      (Http.load .standard ⟨second⟩).run = .ok b ∧
      (Http.load .standard ⟨first ++ second⟩).run = .ok whole ∧ whole.Joins a b ∧
      whole.value.flatMap (fun config => config.methods.map fun method =>
        (method.options.default.accept, method.options.default.contentType)) =
        [("json", ""), ("", "text")] := by
  intro interface first second
  have registered : Http.HasRules .standard := ⟨rfl, rfl⟩
  obtain ⟨a, b, whole, done, done', together, joins⟩ :=
    (run_load_concatenated registered).1.joins first second
  refine ⟨a, b, whole, done, done', together, joins, ?_⟩
  cases (Http.run_load registered ⟨first ++ second⟩).symm.trans together
  change (Http.configs .standard ⟨first ++ second⟩).flatMap _ = _
  decide +kernel

end DocOptions
