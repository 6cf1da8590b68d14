import DocOptions.Plugin.Http.Load
import Mathlib.Data.List.Perm.Basic

/-! Parameters and results grouped by how they travel. The carriers exclude each other and one of
them always applies, so the groups of a method share out the variables that travel. -/

namespace DocOptions.Http

/-- The names of the variables that travel and whose types are carried, as they are declared. -/
def namesBy (travels : Variable → Bool) (carried : String → Bool) (declared : List Variable)
    (types : List String) : List String :=
  ((declared.zip types).filter fun (var, type) => travels var && carried type).map (·.1.name)

variable {travels : Variable → Bool} {carried : String → Bool} {declared : List Variable}

theorem namesBy_map (type : Variable → String) :
    namesBy travels carried declared (declared.map type) =
      (declared.filter fun var => travels var && carried (type var)).map (·.name) := by
  rw [namesBy, ← List.map_prod_left_eq_zip, List.filter_map, List.map_map]
  rfl

section Classes

variable {α β : Type} [DecidableEq β]

theorem filter_other_class (kind : α → β) {own other : β} (apart : other ≠ own) (all : List α) :
    (all.filter fun a => !(kind a == own)).filter (kind · == other) =
      all.filter (kind · == other) := by
  rw [List.filter_filter]
  apply List.filter_congr
  intro a _
  by_cases same : kind a = other
  · simp [same, apart]
  · simp [same]

/-- Elements sorted into classes are all the elements. -/
theorem perm_flatMap_filter (kind : α → β) {classes : List β} (distinct : classes.Nodup)
    (all : List α) (covered : ∀ a ∈ all, kind a ∈ classes) :
    (classes.flatMap fun own => all.filter (kind · == own)).Perm all := by
  induction classes generalizing all with
  | nil =>
    cases all with
    | nil => exact .nil
    | cons a rest => exact absurd (covered a List.mem_cons_self) List.not_mem_nil
  | cons own others ih =>
    obtain ⟨fresh, distinct⟩ := List.nodup_cons.mp distinct
    -- The other classes only see the elements that are not of this one.
    let rest := all.filter fun a => !(kind a == own)
    have restCovered : ∀ a ∈ rest, kind a ∈ others := by
      intro a member
      obtain ⟨inside, foreign⟩ := List.mem_filter.mp member
      rcases List.mem_cons.mp (covered a inside) with same | other
      · simp [same] at foreign
      · exact other
    have later : (others.flatMap fun other => all.filter (kind · == other)) =
        others.flatMap fun other => rest.filter (kind · == other) := by
      apply List.flatMap_congr
      intro other member
      refine (filter_other_class kind ?_ all).symm
      rintro rfl
      exact fresh member
    rw [List.flatMap_cons, later]
    have shared := ih distinct rest restCovered
    exact (shared.append_left _).trans (List.filter_append_perm _ all)

theorem perm_namesBy (kind : String → β) {classes : List β}
    (distinct : classes.Nodup) (covered : ∀ type, kind type ∈ classes) (type : Variable → String) :
    (classes.flatMap fun own =>
        namesBy travels (kind · == own) declared (declared.map type)).Perm
      ((declared.filter travels).map (·.name)) := by
  have shared := perm_flatMap_filter (fun var => kind (type var)) distinct
    (declared.filter travels) fun var _ => covered (type var)
  have group (own : β) : namesBy travels (kind · == own) declared (declared.map type) =
      ((declared.filter travels).filter fun var => kind (type var) == own).map (·.name) := by
    rw [namesBy_map, List.filter_filter]
    congr 2
    funext var
    rw [Bool.and_comm]
  simp only [group, ← List.map_flatMap]
  exact shared.map _

end Classes

theorem ofName_beq (type : String) :
    (Carrier.ofName type == .query) = (type == "query") ∧
      (Carrier.ofName type == .header) = (type == "header") ∧
      (Carrier.ofName type == .cookie) = (type == "cookie") ∧
      (Carrier.ofName type == .path) = (type == "path") ∧
      (Carrier.ofName type == .body) = decide (type ∉ ["query", "header", "cookie", "path"]) := by
  unfold Carrier.ofName
  split <;> simp_all

theorem resultCarrier_beq (type : String) :
    (resultCarrier type == .header) = (type == "header") ∧
      (resultCarrier type == .cookie) = (type == "cookie") ∧
      (resultCarrier type == .body) = decide (type ∉ ["header", "cookie"]) := by
  obtain ⟨-, header, cookie, -, -⟩ := ofName_beq type
  unfold resultCarrier
  cases carrier : Carrier.ofName type <;> simp_all

theorem paramsBy_eq {config : Variable → ParamConfig} (named : ∀ var, (config var).var = var.name)
    {params : List ParamConfig} (aligned : params = declared.map config) {carrier : Carrier}
    (same : ∀ type, (Carrier.ofName type == carrier) = carried type) :
    paramsBy carrier declared params =
      namesBy (!·.isContext) carried declared (params.map (·.options.httpType)) := by
  obtain rfl := funext same
  subst aligned
  rw [List.map_map, namesBy_map, paramsBy, ← List.map_prod_right_eq_zip, List.filter_map,
    List.map_map]
  exact List.map_congr_left fun var _ => named var

theorem resultsBy_eq {config : Variable → ResultConfig}
    (named : ∀ var, (config var).var = var.name) {results : List ResultConfig}
    (aligned : results = declared.map config) {carrier : Carrier}
    (same : ∀ type, (resultCarrier type == carrier) = carried type) :
    resultsBy carrier declared results =
      namesBy (!·.isError) carried declared (results.map (·.options.httpType)) := by
  obtain rfl := funext same
  subst aligned
  rw [List.map_map, namesBy_map, resultsBy, ← List.map_prod_right_eq_zip, List.filter_map,
    List.map_map]
  exact List.map_congr_left fun var _ => named var

/-- Five groups share out the parameters that are no contexts. -/
theorem perm_paramsBy {config : Variable → ParamConfig} (named : ∀ var, (config var).var = var.name)
    {params : List ParamConfig} (aligned : params = declared.map config) :
    (paramsBy .query declared params ++ paramsBy .header declared params ++
        paramsBy .cookie declared params ++ paramsBy .path declared params ++
        paramsBy .body declared params).Perm
      ((declared.filter (!·.isContext)).map (·.name)) := by
  have distinct : [Carrier.query, .header, .cookie, .path, .body].Nodup := by decide
  have covered (type : String) :
      Carrier.ofName type ∈ [Carrier.query, .header, .cookie, .path, .body] := by
    cases Carrier.ofName type <;> decide
  have shared : (_ : List String).Perm ((declared.filter (!·.isContext)).map (·.name)) :=
    perm_namesBy Carrier.ofName distinct covered fun var => (config var).options.httpType
  have types : params.map (·.options.httpType) =
      declared.map fun var => (config var).options.httpType := by
    rw [aligned, List.map_map, Function.comp_def]
  have each (carrier : Carrier) : paramsBy carrier declared params = _ :=
    paramsBy_eq named aligned fun _ => rfl
  rw [← types] at shared
  simpa [each] using shared

/-- Three groups share out the results that are no errors. -/
theorem perm_resultsBy {config : Variable → ResultConfig}
    (named : ∀ var, (config var).var = var.name) {results : List ResultConfig}
    (aligned : results = declared.map config) :
    (resultsBy .header declared results ++ resultsBy .cookie declared results ++
        resultsBy .body declared results).Perm
      ((declared.filter (!·.isError)).map (·.name)) := by
  have distinct : [Carrier.header, .cookie, .body].Nodup := by decide
  have covered (type : String) : resultCarrier type ∈ [Carrier.header, .cookie, .body] := by
    unfold resultCarrier
    split <;> decide
  have shared : (_ : List String).Perm ((declared.filter (!·.isError)).map (·.name)) :=
    perm_namesBy resultCarrier distinct covered fun var => (config var).options.httpType
  have types : results.map (·.options.httpType) =
      declared.map fun var => (config var).options.httpType := by
    rw [aligned, List.map_map, Function.comp_def]
  have each (carrier : Carrier) : resultsBy carrier declared results = _ :=
    resultsBy_eq named aligned fun _ => rfl
  rw [← types] at shared
  simpa [each] using shared

end DocOptions.Http
