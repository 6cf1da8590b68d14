import DocOptions.Proofs.Directive.Comments
import Mathlib.Data.List.Infix

/-! Titles among the comments above a declaration. A title loses the name of the declaration
wherever a space follows the name, not at its start alone, so what follows its first word is kept as
it is if and only if the name and a space do not occur there again. -/

namespace DocOptions

section RemoveAll

variable {part : List Char}

theorem removeAll_skip (part : List Char) (skip : Nat) (chars : List Char) :
    removeAll part skip chars = removeAll part 0 (chars.drop skip) := by
  induction chars generalizing skip with
  | nil => rw [List.drop_nil, removeAll, removeAll]
  | cons c rest ih =>
    cases skip with
    | zero => rfl
    | succ skip => exact ih skip

theorem removeAll_append (nonempty : part ≠ []) (rest : List Char) :
    removeAll part 0 (part ++ rest) = removeAll part 0 rest := by
  obtain ⟨c, more, rfl⟩ := List.exists_cons_of_ne_nil nonempty
  have found : (c :: more).isPrefixOf (c :: (more ++ rest)) = true :=
    List.isPrefixOf_iff_prefix.mpr (List.prefix_append (c :: more) rest)
  rw [List.cons_append, removeAll, if_pos found, removeAll_skip, List.length_cons,
    Nat.add_sub_cancel, List.drop_left]

theorem removeAll_cons {c : Char} {rest : List Char} (absent : ¬part <+: c :: rest) :
    removeAll part 0 (c :: rest) = c :: removeAll part 0 rest :=
  if_neg fun found => absent (List.isPrefixOf_iff_prefix.mp found)

/-- The stretches of a text between the occurrences of a part in it. -/
structure IsBetween (part chars : List Char) (chunks : List (List Char)) : Prop where
  joined : part.intercalate chunks = chars
  free : ∀ chunk ∈ chunks, ¬part <:+: chunk
  nonempty : chunks ≠ []

variable {chars : List Char} {chunks : List (List Char)}

theorem IsBetween.next (between : IsBetween part chars chunks) (nonempty : part ≠ []) :
    IsBetween part (part ++ chars) ([] :: chunks) where
  joined := by
    rw [List.intercalate_cons_of_ne_nil between.nonempty, between.joined, List.nil_append]
  free := List.forall_mem_cons.mpr
    ⟨fun inside => nonempty (List.infix_nil.mp inside), between.free⟩
  nonempty := List.cons_ne_nil _ _

theorem IsBetween.start {first : List Char} (between : IsBetween part chars (first :: chunks)) :
    first <+: chars := by
  rw [← between.joined]
  cases chunks with
  | nil => rw [List.intercalate_singleton]
  | cons =>
    rw [List.intercalate_cons_cons, List.append_assoc]
    exact List.prefix_append _ _

theorem IsBetween.cons {c : Char} {first : List Char}
    (between : IsBetween part chars (first :: chunks)) (absent : ¬part <+: c :: chars) :
    IsBetween part (c :: chars) ((c :: first) :: chunks) := by
  obtain ⟨own, free⟩ := List.forall_mem_cons.mp between.free
  have joined : part.intercalate ((c :: first) :: chunks) = c :: chars := by
    rw [← between.joined]
    cases chunks with
    | nil => rw [List.intercalate_singleton, List.intercalate_singleton]
    | cons => rw [List.intercalate_cons_cons, List.intercalate_cons_cons, List.append_assoc,
        List.append_assoc, List.cons_append]
  have start : c :: first <+: c :: chars := List.cons_prefix_cons.mpr ⟨rfl, between.start⟩
  refine ⟨joined, List.forall_mem_cons.mpr ⟨fun inside => ?_, free⟩, List.cons_ne_nil _ _⟩
  rcases List.infix_cons_iff.mp inside with atStart | later
  · exact absent (atStart.trans start)
  · exact own later

/-- What is left of a text is what stands between the occurrences of the part. -/
theorem exists_isBetween (nonempty : part ≠ []) (chars : List Char) :
    ∃ chunks, IsBetween part chars chunks ∧ removeAll part 0 chars = chunks.flatten := by
  -- An occurrence is dropped as a whole, so the induction is on the length.
  induction size : chars.length using Nat.strong_induction_on generalizing chars with
  | _ size ih =>
    subst size
    by_cases found : part <+: chars
    · obtain ⟨rest, rfl⟩ := found
      have shorter : rest.length < (part ++ rest).length := by
        have := List.length_pos_iff.mpr nonempty
        rw [List.length_append]
        omega
      obtain ⟨chunks, between, removed⟩ := ih _ shorter rest rfl
      exact ⟨[] :: chunks, between.next nonempty, (removeAll_append nonempty rest).trans removed⟩
    · cases chars with
      | nil =>
        have free : ¬part <:+: [] := fun inside => nonempty (List.infix_nil.mp inside)
        exact ⟨[[]], ⟨rfl, List.forall_mem_singleton.mpr free, List.cons_ne_nil _ _⟩, rfl⟩
      | cons c rest =>
        obtain ⟨chunks, between, removed⟩ := ih _ (Nat.lt_succ_self rest.length) rest rfl
        obtain ⟨first, others, rfl⟩ := List.exists_cons_of_ne_nil between.nonempty
        refine ⟨(c :: first) :: others, between.cons found, ?_⟩
        rw [removeAll_cons found, removed, List.flatten_cons, List.flatten_cons, List.cons_append]

theorem length_flatten_le_intercalate (part : List Char) (chunks : List (List Char)) :
    chunks.flatten.length ≤ (part.intercalate chunks).length := by
  induction chunks with
  | nil => exact Nat.le_refl 0
  | cons first others ih =>
    cases others with
    | nil => simp
    | cons second more =>
      rw [List.intercalate_cons_cons, List.flatten_cons]
      simp only [List.length_append]
      omega

/-- The stretches alone are the text if the part does not occur in it, and shorter if it does. -/
theorem IsBetween.flatten_eq_iff (between : IsBetween part chars chunks) (nonempty : part ≠ []) :
    chunks.flatten = chars ↔ ¬part <:+: chars := by
  obtain ⟨first, others, rfl⟩ := List.exists_cons_of_ne_nil between.nonempty
  cases others with
  | nil =>
    have whole : first = chars := by simpa using between.joined
    subst whole
    simpa using between.free
  | cons second more =>
    have joined := between.joined
    rw [List.intercalate_cons_cons] at joined
    have occurs : part <:+: chars := ⟨first, _, joined⟩
    have shorter : (first :: second :: more).flatten.length < chars.length := by
      have := List.length_pos_iff.mpr nonempty
      have := length_flatten_le_intercalate part (second :: more)
      rw [← joined, List.flatten_cons]
      simp only [List.length_append]
      omega
    exact iff_of_false (fun same => absurd (congrArg List.length same) (Nat.ne_of_lt shorter))
      (not_not_intro occurs)

end RemoveAll

namespace CommentLine

theorem uncomment_slashes {text : String} (start : text.toList.head? ≠ some ' ') :
    uncomment ("// " ++ text) = text.toList := by
  have slashes : "// ".toList = List.replicate 2 '/' ++ List.replicate 1 ' ' := rfl
  refine isUncommented_iff.mp ⟨2, 1, ?_, by simp, start⟩
  rw [String.toList_append, slashes, List.append_assoc]

theorem classify_of_named {raw name : String} (named : name ≠ "") {rest : List Char}
    (line : uncomment raw = name.toList ++ rest) (position : Position) :
    classify raw name position =
      ⟨String.ofList (removeAll (name.toList ++ [' ']) 0 (uncomment raw)), .title, position⟩ := by
  have title : (!name.isEmpty && name.toList.isPrefixOf (uncomment raw)) = true := by
    simp [named, line]
  rw [classify, if_pos title]

/-- A comment that starts with the name of the declaration is a title. From the text after the name
every further occurrence of the name and a space is removed, and nothing else is. -/
theorem text_title_eq_iff {name : String} (named : name ≠ "") (start : name.toList.head? ≠ some ' ')
    (rest : String) (position : Position) :
    let line := classify ("// " ++ name ++ " " ++ rest) name position
    line.kind = .title ∧ line.position = position ∧
      (∃ chunks, IsBetween (name ++ " ").toList rest.toList chunks ∧
        line.text = String.ofList chunks.flatten) ∧
      (line.text = rest ↔ ¬(name ++ " ").toList <:+: rest.toList) := by
  intro line
  have part : (name ++ " ").toList = name.toList ++ [' '] := String.toList_append
  have nonempty : (name ++ " ").toList ≠ [] := by simp [part]
  have inside : uncomment ("// " ++ name ++ " " ++ rest) = (name ++ " ").toList ++ rest.toList := by
    rw [String.append_assoc, String.append_assoc, uncomment_slashes, String.toList_append,
      String.toList_append, String.toList_append, List.append_assoc]
    rwa [String.toList_append, List.head?_append_of_ne_nil _ (by simpa using named)]
  have title : line = ⟨String.ofList (removeAll (name ++ " ").toList 0 rest.toList), .title,
      position⟩ := by
    rw [← removeAll_append nonempty, ← inside, part]
    exact classify_of_named named (by rw [inside, part, List.append_assoc]) position
  obtain ⟨chunks, between, removed⟩ := exists_isBetween nonempty rest.toList
  rw [title, removed]
  refine ⟨rfl, rfl, ⟨chunks, between, rfl⟩, ?_⟩
  rw [← between.flatten_eq_iff nonempty, ← String.toList_inj, String.toList_ofList]

/-- The name is a part of a longer word, and stands at the end without a space. -/
theorem text_title_eq_iff_longer_word :
    "Get" ≠ "" ∧ "Get".toList.head? ≠ some ' ' ∧
      (classify "// Get a GetAll like Get" "Get" .unknown).text = "a GetAll like Get" := by
  have named : "Get" ≠ "" := by decide
  have start : "Get".toList.head? ≠ some ' ' := by decide
  obtain ⟨-, -, -, kept⟩ := text_title_eq_iff named start "a GetAll like Get" .unknown
  exact ⟨named, start, kept.mpr (by decide)⟩

/-- A title that names the declaration twice loses both names. -/
theorem text_title_second_name :
    let line := classify ("// " ++ "Get" ++ " " ++ "what Get returns") "Get" .unknown
    line.kind = .title ∧ line.text = "what returns" ∧ line.text ≠ "what Get returns" := by
  decide

end CommentLine
end DocOptions
