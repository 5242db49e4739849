import Hexwire.Files.Path
import Mathlib.Data.List.DropRight

/-! # Components of paths

A path is split at its slashes (`Hexwire.Path.components_eq_splitOn`), so that two paths with a
slash between them have the components of both. Resolving the components of an absolute path leads
where following them one after another leads (`Hexwire.Path.resolve_eq_foldl_follow`), and the
normal form of the path spells that place (`Hexwire.Path.normalize_slash`). A path that splits into
a directory and a name is put together from them again unless slashes are lost between them
(`Hexwire.Path.append_directory_name`).
-/

namespace Hexwire.Path

variable {path before last slashes : List Char} {parts place stack : List (List Char)} {c : Char}

/-! ## Splitting and joining -/

/-- Components are what stands between slashes. -/
theorem components_eq_splitOn (path : List Char) : components path = path.splitOn '/' := by
  induction path with
  | nil => rfl
  | cons c rest ih =>
      rw [components, List.splitOn_cons_eq_if_modifyHead, ← ih]
      by_cases slash : c = '/'
      · simp only [slash, if_true, beq_self_eq_true]
      · rw [if_neg slash, if_neg (by simpa using slash)]
        cases split : components rest with
        | nil => exact absurd (ih.symm.trans split) (List.splitOn_ne_nil _ _)
        | cons first others => rfl

/-- A slash separates the components of what stands before it from those of what follows. -/
theorem components_append_slash (before after : List Char) :
    components (before ++ '/' :: after) = components before ++ components after := by
  simp only [components_eq_splitOn, List.splitOn_append_cons_self]

/-- Components without slashes are those of their path. -/
theorem components_join (plain : ∀ part ∈ parts, '/' ∉ part)
    (filled : parts ≠ []) : components (join parts) = parts := by
  rw [components_eq_splitOn, join, List.splitOn_intercalate '/' plain filled]

/-- Components are joined to the path that they come from. -/
theorem join_components (path : List Char) : join (components path) = path := by
  rw [components_eq_splitOn, join, List.intercalate_splitOn]

/-- The last component is joined by a slash. -/
theorem join_append_singleton (filled : parts ≠ []) (last : List Char) :
    join (parts ++ [last]) = join parts ++ '/' :: last := by
  induction parts with
  | nil => exact absurd rfl filled
  | cons first rest ih =>
      cases rest with
      | nil => simp [join]
      | cons second others =>
          have inner := ih (List.cons_ne_nil _ _)
          simp only [join, List.cons_append, List.intercalate_cons_cons] at inner ⊢
          simp only [inner, List.append_assoc]

/-- A character other than a slash comes from some part. -/
theorem mem_join (other : c ≠ '/') : c ∈ join parts ↔ ∃ part ∈ parts, c ∈ part := by
  induction parts with
  | nil => simp [join]
  | cons first rest ih =>
      cases rest with
      | nil => simp [join]
      | cons second others =>
          simp only [join, List.intercalate_cons_cons, List.mem_append, List.mem_singleton, other,
            or_false] at ih ⊢
          rw [ih]
          simp only [List.mem_cons, exists_eq_or_imp]

/-- A character other than a slash is in some component. -/
theorem mem_components (other : c ≠ '/') : c ∈ path ↔ ∃ part ∈ components path, c ∈ part := by
  rw [← mem_join other, join_components]

/-! ## Following components -/

/-- Where a component leads from a place: nothing and a point stay there, two points lead to the
place above, and a name to the place of that name below. -/
def follow (place : List (List Char)) (part : List Char) : List (List Char) :=
  if part = [] ∨ part = ['.'] then place
  else if part = ['.', '.'] then place.dropLast
  else place ++ [part]

/-- Names lead from a place to the place they spell below it. -/
theorem foldl_follow_of_names
    (names : ∀ part ∈ parts, part ≠ [] ∧ part ≠ ['.'] ∧ part ≠ ['.', '.'])
    (place : List (List Char)) : parts.foldl follow place = place ++ parts := by
  induction parts generalizing place with
  | nil => exact (List.append_nil place).symm
  | cons part rest ih =>
      obtain ⟨⟨filled, staying, rising⟩, later⟩ := List.forall_mem_cons.mp names
      have step : follow place part = place ++ [part] := by
        rw [follow, if_neg (not_or.mpr ⟨filled, staying⟩), if_neg rising]
      rw [List.foldl_cons, step, ih later, List.append_assoc, List.singleton_append]

/-- Empty parts lead nowhere. -/
theorem foldl_follow_of_empty (empty : ∀ part ∈ parts, part = []) (place : List (List Char)) :
    parts.foldl follow place = place := by
  induction parts with
  | nil => rfl
  | cons part rest ih =>
      obtain ⟨now, later⟩ := List.forall_mem_cons.mp empty
      have staying : follow place part = place := if_pos (.inl now)
      rw [List.foldl_cons, staying, ih later]

/-- The names of a place that was followed to were there before or are among what was followed. -/
theorem mem_foldl_follow {part : List Char}
    (member : part ∈ parts.foldl follow place) : part ∈ place ∨ part ∈ parts := by
  induction parts generalizing place with
  | nil => exact .inl member
  | cons first rest ih =>
      obtain before | after := ih member
      · unfold follow at before
        split at before
        · exact .inl before
        · split at before
          · exact .inl ((List.dropLast_sublist place).subset before)
          · obtain earlier | last := List.mem_append.mp before
            · exact .inl earlier
            · exact .inr (List.mem_cons.mpr (.inl (List.mem_singleton.mp last)))
      · exact .inr (List.mem_cons_of_mem _ after)

/-- On a stack without two points, an absolute path pushes what it follows. -/
theorem reverse_push (settled : ['.', '.'] ∉ stack) (part : List Char) :
    (push true stack part).reverse = follow stack.reverse part ∧
      ['.', '.'] ∉ push true stack part := by
  unfold push follow
  split
  · exact ⟨rfl, settled⟩
  · split
    · cases stack with
      | nil => exact ⟨rfl, List.not_mem_nil⟩
      | cons top below =>
          have other : top ≠ ['.', '.'] := fun same => settled (same ▸ List.mem_cons_self)
          dsimp only
          rw [if_neg other, List.reverse_cons, List.dropLast_concat]
          exact ⟨rfl, fun member => settled (List.mem_cons_of_mem _ member)⟩
    · next rising =>
        refine ⟨List.reverse_cons, fun member => ?_⟩
        obtain same | below := List.mem_cons.mp member
        · exact rising same.symm
        · exact settled below

/-- The components of a normalised absolute path are where its components lead. The induction is on
the components, over every stack that two points can only take from. -/
theorem resolve_eq_foldl_follow (parts : List (List Char)) :
    resolve true parts = parts.foldl follow [] := by
  suffices onto : ∀ stack, ['.', '.'] ∉ stack →
      (parts.foldl (push true) stack).reverse = parts.foldl follow stack.reverse from
    onto [] List.not_mem_nil
  induction parts with
  | nil => exact fun stack _ => rfl
  | cons part rest ih =>
      intro stack settled
      obtain ⟨pushed, still⟩ := reverse_push settled part
      rw [List.foldl_cons, List.foldl_cons, ih _ still, pushed]

/-- An absolute path keeps one slash or two. -/
theorem root_slash (rest : List Char) :
    root ('/' :: rest) = ['/'] ∨ root ('/' :: rest) = ['/', '/'] := by
  unfold root
  split <;> simp_all

/-- The normal form of an absolute path spells where its components lead. -/
theorem normalize_slash (rest : List Char) :
    normalize ('/' :: rest) =
      root ('/' :: rest) ++ join ((components ('/' :: rest)).foldl follow []) := by
  have absolute : (root ('/' :: rest)).isEmpty = false := by
    obtain one | two := root_slash rest
    · rw [one]
      rfl
    · rw [two]
      rfl
  simp only [normalize, absolute, Bool.not_false, Bool.false_and, Bool.false_eq_true, if_false,
    resolve_eq_foldl_follow]

/-! ## Directory and name -/

/-- A path is split at its last slash. -/
theorem splitLast_append_slash (before : List Char) (plain : '/' ∉ last) :
    splitLast (before ++ '/' :: last) = (before ++ ['/'], last) := by
  -- The last slash is the first one of the reversed path.
  have slashless : ∀ c ∈ last.reverse, (decide (c ≠ '/')) = true := fun c member =>
    decide_eq_true fun same => plain (same ▸ List.mem_reverse.mp member)
  have name : ((before ++ '/' :: last).reverse.takeWhile (· ≠ '/')).reverse = last := by
    simp only [List.reverse_append, List.reverse_cons, List.append_assoc, List.singleton_append]
    rw [List.takeWhile_append_of_pos slashless, List.takeWhile_cons_of_neg (by decide),
      List.append_nil, List.reverse_reverse]
  have regrouped : before ++ '/' :: last = (before ++ ['/']) ++ last := by
    rw [List.append_assoc, List.singleton_append]
  simp only [splitLast, name, Prod.mk.injEq, and_true]
  rw [regrouped, List.length_append, Nat.add_sub_cancel, List.take_left]

/-- The name of a path is what comes after its last slash. -/
theorem name_append_slash (before : List Char) (plain : '/' ∉ last) :
    name (before ++ '/' :: last) = last := by
  rw [name, splitLast_append_slash before plain]

/-- A slash at the end of a path is trimmed. -/
theorem trimSlashes_append_slash (filled : path ≠ []) (settled : path.getLast? ≠ some '/') :
    trimSlashes (path ++ ['/']) = path := by
  obtain rfl | ⟨init, last, rfl⟩ := List.eq_nil_or_concat' path
  · exact absurd rfl filled
  · have other : last ≠ '/' := fun same => settled (by rw [List.getLast?_concat, same])
    simp [trimSlashes, other]

/-- A relative path follows its base after a slash. -/
theorem append_of_relative (relative : path.head? ≠ some '/') (base : List Char) :
    append base path =
      if base.isEmpty || base.getLast? = some '/' then base ++ path else base ++ '/' :: path := by
  unfold append
  split
  · exact absurd rfl relative
  · rfl

/-- A path is its directory and its name put together, unless slashes before the last one are
lost. -/
theorem append_directory_name (plain : '/' ∉ last)
    (settled : before.all (· = '/') ∨ before.getLast? ≠ some '/') :
    append (directory (before ++ '/' :: last)) last = before ++ '/' :: last := by
  have relative : last.head? ≠ some '/' := fun slash => plain (List.mem_of_mem_head? slash)
  rw [directory, splitLast_append_slash before plain, append_of_relative relative]
  by_cases slashes : before.all (· = '/')
  · have kept : trimSlashes (before ++ ['/']) = before ++ ['/'] :=
      if_pos (by simpa using slashes)
    simp only [kept, List.getLast?_concat, decide_true, Bool.or_true, if_true, List.append_assoc,
      List.singleton_append]
  · have filled : before ≠ [] := fun empty => slashes (empty ▸ rfl)
    have trimmed : before.getLast? ≠ some '/' := settled.resolve_left slashes
    rw [trimSlashes_append_slash filled trimmed, if_neg (by simp [filled, trimmed])]

/-- Directory and name bring no characters in but slashes. -/
theorem mem_append_directory_name (member : c ∈ append (directory path) (name path)) :
    c = '/' ∨ c ∈ path := by
  have ofName : c ∈ name path → c ∈ path := fun here =>
    List.mem_reverse.mp ((List.takeWhile_sublist _).subset (List.mem_reverse.mp here))
  have ofDirectory : c ∈ directory path → c ∈ path := by
    intro here
    unfold directory trimSlashes at here
    split at here
    · exact List.mem_of_mem_take here
    · have kept := (List.dropWhile_sublist _).subset (List.mem_reverse.mp here)
      exact List.mem_of_mem_take (List.mem_reverse.mp kept)
  unfold append at member
  split at member
  · exact .inr (ofName member)
  · split at member
    · exact .inr ((List.mem_append.mp member).elim ofDirectory ofName)
    · obtain before | same | after := List.mem_append.mp member |>.imp id List.mem_cons.mp
      · exact .inr (ofDirectory before)
      · exact .inl same
      · exact .inr (ofName after)

/-- An absolute path stays one when it is trimmed. -/
theorem head?_trimSlashes (absolute : path.head? = some '/') :
    (trimSlashes path).head? = some '/' := by
  unfold trimSlashes
  split
  · exact absolute
  · next mixed =>
      obtain ⟨rest, whole⟩ := List.rdropWhile_prefix (· = '/') path
      have filled : path.rdropWhile (· = '/') ≠ [] := fun empty =>
        mixed (List.all_eq_true.mpr (List.rdropWhile_eq_nil_iff.mp empty))
      rw [← whole, List.head?_append_of_ne_nil _ filled] at absolute
      exact absolute

/-- What an absolute path is put together to is absolute. -/
theorem head?_append_directory_name (absolute : path.head? = some '/') :
    (append (directory path) (name path)).head? = some '/' := by
  obtain ⟨after, before, split, plain⟩ :=
    List.eq_append_cons_of_mem (List.mem_reverse.mpr (List.mem_of_mem_head? absolute))
  obtain rfl : path = before.reverse ++ '/' :: after.reverse := by
    rw [← List.reverse_reverse path, split]
    simp only [List.reverse_append, List.reverse_cons, List.append_assoc, List.singleton_append]
  have lastPlain : '/' ∉ after.reverse := mt List.mem_reverse.mp plain
  have relative : after.reverse.head? ≠ some '/' := fun slash =>
    lastPlain (List.mem_of_mem_head? slash)
  have starts : (before.reverse ++ ['/']).head? = some '/' := by
    cases shape : before.reverse with
    | nil => rfl
    | cons c rest => simpa [shape] using absolute
  have trimmed := head?_trimSlashes starts
  rw [directory, splitLast_append_slash _ lastPlain, name_append_slash _ lastPlain,
    append_of_relative relative]
  dsimp only
  split
  · rw [List.head?_append, trimmed, Option.some_or]
  · rw [List.head?_append, trimmed, Option.some_or]

/-- A path of names ends with a character of the last one. -/
theorem getLast?_join (names : ∀ part ∈ parts, part ≠ [] ∧ '/' ∉ part)
    (below : parts ≠ []) : ∃ c, c ≠ '/' ∧ (join parts).getLast? = some c := by
  obtain rfl | ⟨init, last, rfl⟩ := List.eq_nil_or_concat' parts
  · exact absurd rfl below
  · obtain ⟨filled, plain⟩ := names last List.mem_concat_self
    have ends : last.getLast? = some (last.getLast filled) := List.getLast?_eq_some_getLast filled
    refine ⟨last.getLast filled, fun slash => plain (slash ▸ List.getLast_mem filled), ?_⟩
    by_cases single : init = []
    · simpa [single, join] using ends
    · rw [join_append_singleton single, ← List.singleton_append, List.getLast?_append,
        List.getLast?_append, ends, Option.some_or, Option.some_or]

/-- **An absolute path of names is its directory and its name put together**, and its name is the
last of the names. -/
theorem directory_name_spelled (absolute : slashes = ['/'] ∨ slashes = ['/', '/'])
    {init : List (List Char)} (names : ∀ part ∈ init ++ [last], part ≠ [] ∧ '/' ∉ part) :
    name (slashes ++ join (init ++ [last])) = last ∧
      append (directory (slashes ++ join (init ++ [last]))) last =
        slashes ++ join (init ++ [last]) := by
  have plain : '/' ∉ last := (names last List.mem_concat_self).2
  -- Nothing but slashes stands before a single name, and a name before each further one.
  obtain ⟨before, split, settled⟩ : ∃ before, slashes ++ join (init ++ [last]) =
      before ++ '/' :: last ∧ (before.all (· = '/') ∨ before.getLast? ≠ some '/') := by
    by_cases single : init = []
    · obtain rfl | rfl := absolute
      · exact ⟨[], by simp [single, join], .inl rfl⟩
      · exact ⟨['/'], by simp [single, join], .inl rfl⟩
    · refine ⟨slashes ++ join init, ?_, .inr ?_⟩
      · rw [join_append_singleton single, List.append_assoc]
      · have inner := fun part member => names part (List.mem_append_left _ member)
        obtain ⟨c, other, ends⟩ := getLast?_join inner single
        rw [List.getLast?_append, ends, Option.some_or]
        exact fun slash => other (Option.some_inj.mp slash)
  rw [split]
  exact ⟨name_append_slash before plain, append_directory_name plain settled⟩

end Hexwire.Path
