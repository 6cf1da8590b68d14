import DocOptions.Plugin.Http.Options
import DocOptions.Proofs.Schema.Origins
import Mathlib.Data.List.Nodup

/-! Tables whose fields have keys of their own. Names are joined with the hyphen that they may have
in themselves, and only the names of one table are checked against each other. So the key of a field
can be that of a field inside a group, but only where a name goes on after the name of a group
beside it and a hyphen. -/

namespace DocOptions

/-- A key goes on after a scope and a hyphen. Nothing else has to follow. -/
def Below (scope key : String) : Prop :=
  ∃ rest, key = scope ++ "-" ++ rest

theorem below_iff {scope key : String} :
    Below scope key ↔ scope.toList ++ ['-'] <+: key.toList := by
  constructor
  · rintro ⟨rest, rfl⟩
    exact ⟨rest.toList, by simp⟩
  · rintro ⟨rest, joined⟩
    exact ⟨String.ofList rest, String.toList_inj.mp (by simp [← joined])⟩

instance (scope key : String) : Decidable (Below scope key) :=
  decidable_of_iff _ below_iff.symm

theorem toList_scoped (scope name : String) :
    (s!"{scope}-{name}").toList = scope.toList ++ '-' :: name.toList := by
  have joined : s!"{scope}-{name}" = scope ++ "-" ++ name := rfl
  rw [joined, String.toList_append, String.toList_append, List.append_assoc]
  rfl

theorem scoped_inj {scope first second : String}
    (same : s!"{scope}-{first}" = s!"{scope}-{second}") : first = second := by
  have letters := congrArg String.toList same
  rw [toList_scoped, toList_scoped] at letters
  exact String.toList_inj.mp (List.cons.inj (List.append_cancel_left letters)).2

theorem below_scoped (scope name : String) : Below scope s!"{scope}-{name}" :=
  ⟨name, rfl⟩

namespace Below

variable {scope first second key : String}

theorem trans (outer : Below scope first) (inner : Below first key) : Below scope key := by
  obtain ⟨rest, rfl⟩ := outer
  obtain ⟨more, rfl⟩ := inner
  exact ⟨rest ++ "-" ++ more, by simp only [String.append_assoc]⟩

theorem of_scoped (below : Below s!"{scope}-{first}" s!"{scope}-{second}") :
    Below first second := by
  rw [below_iff, toList_scoped, toList_scoped, List.append_assoc, List.cons_append,
    List.prefix_append_right_inj, List.cons_prefix_cons] at below
  exact below_iff.mpr below.2

/-- Of two different scopes of one key, one lies below the other. -/
theorem compare (below : Below first key) (below' : Below second key) :
    first = second ∨ Below first second ∨ Below second first := by
  obtain ⟨rest, rfl⟩ := below
  obtain ⟨more, same⟩ := below'
  have letters := congrArg String.toList same
  simp only [String.toList_append, List.append_assoc] at letters
  rcases List.append_eq_append_iff.mp letters with ⟨between, longer, ends⟩ | ⟨between, longer, ends⟩
  · cases between with
    | nil => exact .inl (String.toList_inj.mp (by simpa using longer.symm))
    | cons c between =>
      have hyphen : c = '-' := (List.cons.inj ends).1.symm
      refine .inr (.inl (below_iff.mpr ⟨between, ?_⟩))
      rw [longer, hyphen, List.append_assoc, List.singleton_append]
  · cases between with
    | nil => exact .inl (String.toList_inj.mp (by simpa using longer))
    | cons c between =>
      have hyphen : c = '-' := (List.cons.inj ends).1.symm
      refine .inr (.inr (below_iff.mpr ⟨between, ?_⟩))
      rw [longer, hyphen, List.append_assoc, List.singleton_append]

end Below

/-- The names that stand beside each other in one table, and those of them that are names of
groups. -/
structure Level where
  names : List String
  groups : List String

/-- No name goes on after the name of a group and a hyphen. -/
def Level.Apart (level : Level) : Prop :=
  ∀ group ∈ level.groups, ∀ name ∈ level.names, ¬ Below group name

instance (level : Level) : Decidable level.Apart :=
  inferInstanceAs (Decidable (∀ group ∈ level.groups, ∀ name ∈ level.names, ¬ Below group name))

theorem Level.Apart.mono {level part : Level} (apart : level.Apart)
    (names : part.names ⊆ level.names) (groups : part.groups ⊆ level.groups) : part.Apart :=
  fun group member name inside => apart group (groups member) name (names inside)

namespace Table

def level : {shape : Shape} → Table shape → Level
  | _, nil => ⟨[], []⟩
  | _, leaf spec _ next => ⟨spec.name :: next.level.names, next.level.groups⟩
  | _, composite spec .group _ _ next =>
    ⟨spec.name :: next.level.names, spec.name :: next.level.groups⟩
  | _, composite spec .inline _ _ next => ⟨spec.name :: next.level.names, next.level.groups⟩
  | _, composite spec .inlineList _ _ next => ⟨spec.name :: next.level.names, next.level.groups⟩

/-- The levels inside the groups of a table, to any depth. -/
def levelsInGroups : {shape : Shape} → Table shape → List Level
  | _, nil => []
  | _, leaf _ _ next => next.levelsInGroups
  | _, composite _ .group _ inner next =>
    inner.level :: inner.levelsInGroups ++ next.levelsInGroups
  | _, composite _ .inline _ _ next => next.levelsInGroups
  | _, composite _ .inlineList _ _ next => next.levelsInGroups

def levels {shape : Shape} (table : Table shape) : List Level :=
  table.level :: table.levelsInGroups

/-- Whether names and groups are apart in a table and inside its groups, to any depth. -/
def GroupsApart {shape : Shape} (table : Table shape) : Prop :=
  ∀ level ∈ table.levels, level.Apart

instance {shape : Shape} (table : Table shape) : Decidable table.GroupsApart :=
  inferInstanceAs (Decidable (∀ level ∈ table.levels, level.Apart))

section

variable {nested rest : Shape} {spec : FieldSpec} {name : String} {inner : Table nested}
  {next : Table rest}

theorem GroupsApart.of_next {shape : Shape} {table : Table shape} (apart : table.GroupsApart)
    (names : next.level.names ⊆ table.level.names) (groups : next.level.groups ⊆ table.level.groups)
    (inside : next.levelsInGroups ⊆ table.levelsInGroups) : next.GroupsApart := by
  refine List.forall_mem_cons.mpr ⟨(apart _ List.mem_cons_self).mono names groups, ?_⟩
  intro level member
  exact apart level (List.mem_cons_of_mem _ (inside member))

theorem GroupsApart.of_leaf {kind : Leaf} (apart : (leaf spec kind next).GroupsApart) :
    next.GroupsApart :=
  apart.of_next (List.subset_cons_self ..) (List.Subset.refl _) (List.Subset.refl _)

theorem GroupsApart.of_composite {kind : Composite}
    (apart : (composite spec kind name inner next).GroupsApart) : next.GroupsApart := by
  cases kind with
  | group =>
    exact apart.of_next (List.subset_cons_self ..) (List.subset_cons_self ..)
      (List.subset_append_right ..)
  | inline | inlineList =>
    exact apart.of_next (List.subset_cons_self ..) (List.Subset.refl _) (List.Subset.refl _)

theorem GroupsApart.of_group (apart : (composite spec .group name inner next).GroupsApart) :
    inner.GroupsApart := by
  intro level member
  exact apart level (List.mem_cons_of_mem _ (List.mem_append_left _ member))

theorem level_names_composite (kind : Composite) :
    (composite spec kind name inner next).level.names = spec.name :: next.level.names := by
  cases kind <;> rfl

theorem level_groups_composite (kind : Composite) :
    next.level.groups ⊆ (composite spec kind name inner next).level.groups := by
  cases kind with
  | group => exact List.subset_cons_self ..
  | inline | inlineList => exact List.Subset.refl _

end

variable {shape : Shape} {table : Table shape} {rules : RuleRegistry} {schema : String}
  {mode : Mode} {taken : List String}

/-- The names of an accepted table are new. -/
theorem name_not_mem_of_accepted (accepted : table.verify rules schema mode taken = .ok ()) :
    ∀ name ∈ table.level.names, name ∉ taken := by
  induction table generalizing taken with
  | nil => exact fun _ member => nomatch member
  | leaf spec kind next ih =>
    obtain ⟨own, -, others⟩ := verify_leaf_ok_iff.mp accepted
    refine List.forall_mem_cons.mpr ⟨(FieldSpec.verify_ok_iff.mp own).1, fun name member => ?_⟩
    exact fun used => ih others name member (List.mem_cons_of_mem _ used)
  | composite spec kind name inner next _ ih =>
    obtain ⟨own, -, -, others⟩ := verify_composite_ok_iff.mp accepted
    rw [level_names_composite]
    refine List.forall_mem_cons.mpr ⟨(FieldSpec.verify_ok_iff.mp own).1, fun name member => ?_⟩
    exact fun used => ih others name member (List.mem_cons_of_mem _ used)

end Table

/-- A key is that of the field with a name, or, if the field is a group, lies inside it. -/
def Level.Owns (level : Level) (scope name key : String) : Prop :=
  key = s!"{scope}-{name}" ∨ name ∈ level.groups ∧ Below s!"{scope}-{name}" key

/-- Where names and groups are apart, a key belongs to one name only. -/
theorem Level.Owns.unique {level : Level} {scope first second key : String} (apart : level.Apart)
    (member : first ∈ level.names) (member' : second ∈ level.names)
    (owns : level.Owns scope first key) (owns' : level.Owns scope second key) : first = second := by
  rcases owns with rfl | ⟨group, below⟩
  · rcases owns' with same | ⟨group', below'⟩
    · exact scoped_inj same
    · exact absurd below'.of_scoped (apart second group' first member)
  · rcases owns' with rfl | ⟨group', below'⟩
    · exact absurd below.of_scoped (apart first group second member')
    · rcases below.compare below' with same | within | within
      · exact scoped_inj same
      · exact absurd within.of_scoped (apart first group second member')
      · exact absurd within.of_scoped (apart second group' first member)

namespace Table

variable {shape : Shape} {table : Table shape} {rules : RuleRegistry} {schema scope : String}
  {mode : Mode} {taken : List String}

/-- Every key of a table belongs to one of its names. -/
theorem exists_owner {key : String} (member : key ∈ table.keys scope) :
    ∃ name ∈ table.level.names, table.level.Owns scope name key := by
  induction table generalizing scope with
  | nil => cases member
  | leaf spec kind next ih =>
    rw [keys_leaf, List.mem_cons] at member
    rcases member with own | later
    · exact ⟨spec.name, List.mem_cons_self, .inl own⟩
    · obtain ⟨name, inside, owns⟩ := ih later
      exact ⟨name, List.mem_cons_of_mem _ inside, owns⟩
  | composite spec kind name inner next innerIh ih =>
    have later (member : key ∈ next.keys scope) :
        ∃ other ∈ (composite spec kind name inner next).level.names,
          (composite spec kind name inner next).level.Owns scope other key := by
      obtain ⟨other, inside, owns⟩ := ih member
      refine ⟨other, ?_, owns.imp_right fun below => ⟨level_groups_composite kind below.1, below.2⟩⟩
      rw [level_names_composite]
      exact List.mem_cons_of_mem _ inside
    cases kind with
    | group =>
      rw [keys_group, List.mem_append] at member
      rcases member with within | after
      · obtain ⟨other, -, own | ⟨-, below⟩⟩ := innerIh within
        · exact ⟨spec.name, List.mem_cons_self, .inr ⟨List.mem_cons_self, own ▸ below_scoped ..⟩⟩
        · exact ⟨spec.name, List.mem_cons_self,
            .inr ⟨List.mem_cons_self, (below_scoped ..).trans below⟩⟩
      · exact later after
    | inline | inlineList =>
      simp only [keys_inline, keys_inlineList, List.mem_cons] at member
      rcases member with own | after
      · exact ⟨spec.name, List.mem_cons_self, .inl own⟩
      · exact later after

/-- The key of a first name is none of the keys that belong to the names after it. -/
theorem not_mem_keys_next {rest : Shape} {next : Table rest} {spec : FieldSpec} {key : String}
    (accepted : next.verify rules schema mode (spec.name :: taken) = .ok ())
    (apart : table.level.Apart) (names : table.level.names = spec.name :: next.level.names)
    (groups : next.level.groups ⊆ table.level.groups)
    (owns : table.level.Owns scope spec.name key) : key ∉ next.keys scope := by
  intro member
  obtain ⟨other, inside, owns'⟩ := exists_owner member
  have same : spec.name = other := by
    refine owns.unique apart ?_ ?_ (owns'.imp_right fun below => ⟨groups below.1, below.2⟩)
    · exact names ▸ List.mem_cons_self
    · exact names ▸ List.mem_cons_of_mem _ inside
  exact name_not_mem_of_accepted accepted other inside (same ▸ List.mem_cons_self)

/-- The keys of an accepted table are distinct if its names and groups are apart. -/
theorem nodup_keys (accepted : table.verify rules schema mode taken = .ok ())
    (apart : table.GroupsApart) (scope : String) : (table.keys scope).Nodup := by
  induction table generalizing scope schema mode taken with
  | nil => exact .nil
  | leaf spec kind next ih =>
    obtain ⟨-, -, others⟩ := verify_leaf_ok_iff.mp accepted
    rw [keys_leaf]
    exact List.nodup_cons.mpr
      ⟨not_mem_keys_next others (apart _ List.mem_cons_self) rfl (List.Subset.refl _) (.inl rfl),
        ih others apart.of_leaf scope⟩
  | composite spec kind name inner next innerIh ih =>
    obtain ⟨-, -, within, others⟩ := verify_composite_ok_iff.mp accepted
    have nextDistinct := ih others apart.of_composite scope
    have separate {key : String}
        (owns : (composite spec kind name inner next).level.Owns scope spec.name key) :
        key ∉ next.keys scope :=
      not_mem_keys_next others (apart _ List.mem_cons_self) (level_names_composite kind)
        (level_groups_composite kind) owns
    cases kind with
    | group =>
      rw [keys_group]
      refine List.Nodup.append (innerIh within apart.of_group _) nextDistinct ?_
      intro key inside
      refine separate (.inr ⟨List.mem_cons_self, ?_⟩)
      obtain ⟨other, -, rfl | ⟨-, below⟩⟩ := exists_owner inside
      · exact below_scoped ..
      · exact (below_scoped ..).trans below
    | inline | inlineList =>
      simp only [keys_inline, keys_inlineList]
      exact List.nodup_cons.mpr ⟨separate (.inl rfl), nextDistinct⟩

end Table

namespace Schema

variable {shape : Shape}

/-- In an accepted schema whose names and groups are apart every field has a key of its own. So no
occurrence is found for two fields, and what a decode binds from occurrences of one key lies within
one field. -/
theorem decodeInto_distinct_keys (schema : Schema shape) (rules : RuleRegistry)
    (accepted : schema.verify rules = .ok ()) (apart : schema.table.GroupsApart) (scope : String) :
    (schema.table.keys scope).Nodup ∧
      (∀ index : DirectiveIndex, (schema.table.lookups scope schema.name).Pairwise
        fun first second => (index.getAll first.key).Disjoint (index.getAll second.key)) ∧
      (scope ≠ "" → ∀ (index : DirectiveIndex) (start : shape.Record),
        ∃ decoded, schema.decodeInto rules scope index start = .ok decoded ∧
          ∀ place place' source source', decoded.report.trace.get? place = some source →
            decoded.report.trace.get? place' = some source' → source.key = source'.key →
              ∃ lookup ∈ schema.table.lookups scope schema.name, lookup.key = source.key ∧
                PathWithin lookup.path place ∧ PathWithin lookup.path place') := by
  have distinct := Table.nodup_keys accepted apart scope
  have distinctLookups := distinct
  rw [← schema.table.map_key_lookups scope schema.name] at distinctLookups
  refine ⟨distinct, ?_, ?_⟩
  · intro index
    refine (List.pairwise_map.mp distinctLookups).imp ?_
    intro first second different source member member'
    have own := index.getAll_key _ source member
    exact different (own.symm.trans (index.getAll_key _ source member'))
  · intro nonempty index start
    obtain ⟨decoded, done, reported⟩ := decodeInto_reports accepted nonempty index start
    refine ⟨decoded, done, ?_⟩
    intro place place' source source' traced traced' same
    obtain ⟨lookup, member, found, within⟩ := reported.traced traced
    obtain ⟨other, member', found', within'⟩ := reported.traced traced'
    have key := index.getAll_key _ source found
    have key' := index.getAll_key _ source' found'
    have one : lookup = other := List.inj_on_of_nodup_map distinctLookups member member'
      (key.symm.trans (same.trans key'))
    exact ⟨lookup, member, key.symm, within, one ▸ within'⟩

/-- A leaf and a field inside a group have the same name. The element of a list and its fields are
traced within the one field that the key is for. -/
theorem decodeInto_distinct_keys_query_element :
    let schema : Schema _ := ⟨"Options",
      .leaf (field "path") (.scalar .key (.plain .string)) <|
      .composite (field "req") .group "WrapOpt" Http.WrapOptions.table <|
      .composite (field "query") .group "QueryOpt" Http.QueryOptions.table .nil⟩
    let index := DirectiveIndex.ofList [⟨⟨"http-req-path", ["a"], ∅⟩, .unknown⟩,
      ⟨⟨"http-query-value", ["page", "1"], ∅⟩, .unknown⟩]
    schema.table.GroupsApart ∧
      (["http-path", "http-req-path", "http-query-value"] : List String).Nodup ∧
      ∃ decoded, schema.decodeInto .standard "http" index schema.table.shape.zero = .ok decoded ∧
        decoded.report.trace.keys = ["Options.query.values[0]", "Options.query.values[0].name",
          "Options.query.values[0].values", "Options.req.path"] ∧
        ∀ place place' source source', decoded.report.trace.get? place = some source →
          decoded.report.trace.get? place' = some source' → source.key = source'.key →
            ∃ lookup ∈ schema.table.lookups "http" schema.name, lookup.key = source.key ∧
              PathWithin lookup.path place ∧ PathWithin lookup.path place' := by
  intro schema index
  have apart : schema.table.GroupsApart := by decide +kernel
  obtain ⟨distinct, -, reads⟩ := schema.decodeInto_distinct_keys .standard rfl apart "http"
  obtain ⟨decoded, done, within⟩ := reads (by decide) index schema.table.shape.zero
  have traced : (schema.decodeInto .standard "http" index schema.table.shape.zero).toOption.map
      (·.report.trace.keys) = some ["Options.query.values[0]", "Options.query.values[0].name",
        "Options.query.values[0].values", "Options.req.path"] := by decide +kernel
  rw [done] at traced
  exact ⟨apart, distinct, decoded, done, Option.some.inj traced, within⟩

/-- A bare hyphen behind the name of a group is enough for two fields to share a key, although no
text follows it: here `query` with `-limit` inside and `query-` with `limit` inside. -/
theorem keys_shared_behind_hyphen :
    let text := Leaf.scalar .key (.plain .string)
    let schema : Schema _ := ⟨"Options",
      .composite (field "query") .group "QueryOpt" (.leaf (field "_limit") text .nil) <|
      .composite (field "query_") .group "PageOpt" (.leaf (field "limit") text .nil) .nil⟩
    let index := DirectiveIndex.ofList [⟨⟨"http-query--limit", ["x"], ∅⟩, .unknown⟩]
    schema.verify .standard = .ok () ∧
      (∀ level ∈ schema.table.levels, ∀ group ∈ level.groups, ∀ name ∈ level.names,
        ∀ rest, rest ≠ "" → name ≠ group ++ "-" ++ rest) ∧
      schema.table.keys "http" = ["http-query--limit", "http-query--limit"] ∧
      ∃ decoded, schema.decodeInto .standard "http" index schema.table.shape.zero = .ok decoded ∧
        decoded.value = (("x", ()), ("x", ()), ()) := by
  intro text schema index
  refine ⟨rfl, ?_, by decide +kernel, _, rfl, rfl⟩
  have short : ∀ level ∈ schema.table.levels, ∀ group ∈ level.groups, ∀ name ∈ level.names,
      Below group name → name.length ≤ group.length + 1 := by decide +kernel
  intro level member group inside name inside' rest nonempty same
  have bound := short level member group inside name inside' ⟨rest, same⟩
  rw [same, String.length_append, String.length_append] at bound
  have empty : rest.length = 0 := by
    have one : "-".length = 1 := rfl
    omega
  exact nonempty (String.length_eq_zero_iff.mp empty)

end Schema
end DocOptions
