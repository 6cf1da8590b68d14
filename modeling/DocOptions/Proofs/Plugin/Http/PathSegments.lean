import DocOptions.Plugin.Http.Load
import Mathlib.Data.List.Induction

/-! How parameters are tied to the segments of a path. The segments are gone through from left to
right and each one that names a parameter ties it anew, so the last one decides. -/

namespace DocOptions.Http

open Text

/-- The last place of a text in a list. -/
def IsLastAt (text : String) (texts : List String) (index : Nat) : Prop :=
  texts[index]? = some text ∧ ∀ other, texts[other]? = some text → other ≤ index

variable {text : String} {texts : List String}

theorem IsLastAt.unique {first second : Nat} (last : IsLastAt text texts first)
    (last' : IsLastAt text texts second) : first = second :=
  Nat.le_antisymm (last'.2 first last.1) (last.2 second last'.1)

theorem isLastAt_concat (text : String) (texts : List String) :
    IsLastAt text (texts ++ [text]) texts.length := by
  constructor
  · exact List.getElem?_concat_length
  · intro other found
    obtain ⟨inside, -⟩ := List.getElem?_eq_some_iff.mp found
    rw [List.length_append, List.length_singleton] at inside
    omega

theorem IsLastAt.concat {index : Nat} (last : IsLastAt text texts index) {next : String}
    (apart : next ≠ text) : IsLastAt text (texts ++ [next]) index := by
  obtain ⟨found, greatest⟩ := last
  obtain ⟨inside, -⟩ := List.getElem?_eq_some_iff.mp found
  constructor
  · rwa [List.getElem?_append_left inside]
  · intro other found'
    rw [List.getElem?_append] at found'
    split at found'
    · exact greatest other found'
    · rw [List.getElem?_singleton] at found'
      split at found'
      · exact absurd (Option.some.inj found') apart
      · cases found'

namespace ParamConfig

/-- The segment of a path that ties a parameter. -/
def segment (param : ParamConfig) : String :=
  ":" ++ Naming.lowerCamel param.var

def tiedTo (param : ParamConfig) (index : Nat) : ParamConfig :=
  { param with
    options := { param.options with httpType := "path", required := true }
    pathIndex := some index
    pathName := some (Naming.lowerCamel param.var) }

def bindSegments (param : ParamConfig) (segments : List String) : ParamConfig :=
  segments.zipIdx.foldl (fun param (segment, index) => param.bindSegment segment index) param

variable (param : ParamConfig)

theorem bindSegment_eq (segment : String) (index : Nat) :
    param.bindSegment segment index =
      if segment = param.segment then param.tiedTo index else param := rfl

theorem bindSegments_concat (segments : List String) (next : String) :
    param.bindSegments (segments ++ [next]) =
      (param.bindSegments segments).bindSegment next segments.length := by
  simp [bindSegments, List.zipIdx_append]

/-- A parameter is left as it is, or tied to the last segment that names it. -/
theorem bindSegments_cases (segments : List String) :
    (param.segment ∉ segments ∧ param.bindSegments segments = param) ∨
      ∃ index, IsLastAt param.segment segments index ∧
        param.bindSegments segments = param.tiedTo index := by
  -- From the right: what the last segment does does not depend on the ones before it.
  induction segments using List.reverseRecOn with
  | nil => exact .inl ⟨List.not_mem_nil, rfl⟩
  | append_singleton segments next ih =>
    rw [bindSegments_concat, bindSegment_eq]
    have same : (param.bindSegments segments).segment = param.segment := by
      rcases ih with ⟨-, kept⟩ | ⟨index, -, tied⟩
      · rw [kept]
      · rw [tied]
        rfl
    rw [same]
    by_cases named : next = param.segment
    · subst named
      refine .inr ⟨segments.length, isLastAt_concat _ _, ?_⟩
      rw [if_pos rfl]
      rcases ih with ⟨-, kept⟩ | ⟨index, -, tied⟩
      · rw [kept]
      · rw [tied]
        rfl
    · rw [if_neg named]
      rcases ih with ⟨absent, kept⟩ | ⟨index, last, tied⟩
      · refine .inl ⟨?_, kept⟩
        simp [absent, Ne.symm named]
      · exact .inr ⟨index, last.concat named, tied⟩

theorem pathIndex_bindSegments (free : param.pathIndex = none) (segments : List String)
    (index : Nat) :
    (param.bindSegments segments).pathIndex = some index ↔
      IsLastAt param.segment segments index := by
  rcases param.bindSegments_cases segments with ⟨absent, kept⟩ | ⟨last, isLast, tied⟩
  · rw [kept, free]
    constructor
    · rintro ⟨⟩
    · rintro ⟨found, -⟩
      exact absurd (List.mem_of_getElem? found) absent
  · rw [tied]
    constructor
    · rintro ⟨⟩
      exact isLast
    · intro isLast'
      exact congrArg some (isLast.unique isLast')

theorem var_bindSegments (segments : List String) :
    (param.bindSegments segments).var = param.var := by
  rcases param.bindSegments_cases segments with ⟨-, kept⟩ | ⟨index, -, tied⟩
  · rw [kept]
  · rw [tied]
    rfl

end ParamConfig

/-- Each parameter is tied by itself. -/
theorem bindPath_eq (path : String) (params : List ParamConfig) :
    bindPath path params = params.map (·.bindSegments (cut path '/')) := by
  unfold bindPath ParamConfig.bindSegments
  generalize (cut path '/').zipIdx = segments
  induction segments generalizing params with
  | nil => exact (List.map_id params).symm
  | cons segment rest ih =>
    rw [List.foldl_cons, ih, List.map_map]
    rfl

theorem bindPath_map (path : String) (declared : List Variable) (config : Variable → ParamConfig) :
    bindPath path (declared.map config) =
      declared.map fun var => (config var).bindSegments (cut path '/') := by
  rw [bindPath_eq, List.map_map, Function.comp_def]

theorem httpType_of (declared : Variable) (own : ParamOptions) :
    (ParamConfig.of declared own).options.httpType =
      if own.httpType = "" then "body" else own.httpType :=
  if_congr String.isEmpty_iff rfl rfl

end DocOptions.Http
