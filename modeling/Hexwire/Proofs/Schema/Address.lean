import Hexwire.Schema.Address
import Mathlib.Data.List.TakeWhile

/-! # Addresses that are read back

An address can be written in many ways, and documents are looked up by the way in which they are
written when they are put together from their parts. Parts that are as they are read
(`Hexwire.Schema.Address.Proper`) are read back from what is put together of them
(`Hexwire.Schema.Address.Proper.scan?_render`), so that an address that was put together once stays
as it is (`Hexwire.Schema.Address.normal?_normal?`). The document that an address names has no
fragment of its own (`Hexwire.Schema.Address.hash_notMem_document`).
-/

namespace Hexwire.Schema.Address

variable {mark : Char} {front rest text part scheme standard : List Char}

/-! ## Cutting -/

/-- A text is cut at the first occurrence of a character. -/
theorem cut_append_cons (outside : mark ∉ front) (rest : List Char) :
    cut mark (front ++ mark :: rest) = (front, some rest) := by
  have before : ∀ c ∈ front, decide (c ≠ mark) = true := fun c member =>
    decide_eq_true fun same => outside (same ▸ member)
  have stops : ¬decide (mark ≠ mark) = true := by simp
  rw [cut, List.dropWhile_append_of_pos before, List.takeWhile_append_of_pos before,
    List.dropWhile_cons_of_neg (p := fun c => decide (c ≠ mark)) stops]
  dsimp only
  rw [List.takeWhile_cons_of_neg (p := fun c => decide (c ≠ mark)) stops, List.append_nil]

/-- A text without the character is not cut. -/
theorem cut_of_notMem (outside : mark ∉ text) : cut mark text = (text, none) := by
  have whole : text.dropWhile (fun c => decide (c ≠ mark)) = [] :=
    List.dropWhile_eq_nil_iff.mpr fun c member =>
      decide_eq_true fun same => outside (same ▸ member)
  rw [cut, whole]

/-- A text has the character, with the parts around its first occurrence, or has it not. -/
theorem cut_cases (mark : Char) (text : List Char) :
    mark ∉ text ∧ cut mark text = (text, none) ∨
      ∃ front rest, mark ∉ front ∧ text = front ++ mark :: rest ∧
        cut mark text = (front, some rest) := by
  by_cases member : mark ∈ text
  · obtain ⟨front, rest, split, outside⟩ := List.eq_append_cons_of_mem member
    exact .inr ⟨front, rest, outside, split, split ▸ cut_append_cons outside rest⟩
  · exact .inl ⟨member, cut_of_notMem member⟩

/-- What is in front of a mark is a beginning of the text without the mark, and nothing is behind it
that the text has not. -/
theorem cut_spec (mark : Char) (text : List Char) :
    mark ∉ (cut mark text).1 ∧ (cut mark text).1 <+: text ∧
      (cut mark text).2.getD [] ⊆ text := by
  rcases cut_cases mark text with ⟨outside, same⟩ | ⟨front, rest, outside, split, same⟩
  · rw [same]
    exact ⟨outside, List.prefix_refl _, List.nil_subset _⟩
  · rw [same, split]
    refine ⟨outside, List.prefix_append _ _, fun c member => ?_⟩
    exact List.mem_append_right _ (List.mem_cons_of_mem _ member)

/-- A part behind its mark; without a part there is no mark either. -/
def marked (mark : Char) (part : List Char) : List Char :=
  if part.isEmpty then [] else mark :: part

/-- A marked part begins with its mark, if with anything. -/
theorem head?_marked {c : Char} (first : (marked mark part).head? = some c) : c = mark := by
  cases part with
  | nil => cases first
  | cons _ _ => exact (Option.some.inj first).symm

/-- A marked part has its mark and its characters. -/
theorem eq_or_mem_of_mem_marked {c : Char} (member : c ∈ marked mark part) :
    c = mark ∨ c ∈ part := by
  cases part with
  | nil => cases member
  | cons _ _ => exact List.mem_cons.mp member

/-- A marked part is cut off from what has no mark. -/
theorem cut_append_marked (outside : mark ∉ front) (part : List Char) :
    ∃ found, cut mark (front ++ marked mark part) = (front, found) ∧ found.getD [] = part := by
  cases part with
  | nil =>
      rw [marked, List.isEmpty_nil, if_pos rfl, List.append_nil]
      exact ⟨none, cut_of_notMem outside, rfl⟩
  | cons c part => exact ⟨some (c :: part), cut_append_cons outside _, rfl⟩

/-! ## Schemes -/

/-- A scheme: a letter, and after it what may stand in a scheme. -/
structure IsScheme (scheme : List Char) : Prop where
  letter : ∃ c, scheme.head? = some c ∧ c.isAlpha
  plain : ∀ c ∈ scheme, isSchemeChar c

/-- Text that begins with a scheme and a colon. -/
def HasScheme (text : List Char) : Prop :=
  ∃ scheme rest, IsScheme scheme ∧ text = scheme ++ ':' :: rest

/-- What may stand in a scheme has a code of seven bits. -/
theorem toNat_of_isSchemeChar {c : Char} (plain : isSchemeChar c) : c.toNat < 128 := by
  have upper {most : Char} (within : c.val ≤ most.val) (below : most.toNat < 128) :
      c.toNat < 128 :=
    Nat.lt_of_le_of_lt (UInt32.le_iff_toNat_le.mp within) below
  simp only [isSchemeChar, Bool.or_eq_true, decide_eq_true_eq] at plain
  rcases plain with ((alphanumeric | rfl) | rfl) | rfl
  · rcases Bool.or_eq_true_iff.mp alphanumeric with letter | digit
    · rcases Bool.or_eq_true_iff.mp letter with capital | small
      · have within : c.val ≤ 'Z'.val := (of_decide_eq_true capital).2
        exact upper within (by decide)
      · have within : c.val ≤ 'z'.val := of_decide_eq_true (Bool.and_eq_true_iff.mp small).2
        exact upper within (by decide)
    · have within : c.val ≤ '9'.val := of_decide_eq_true (Bool.and_eq_true_iff.mp digit).2
      exact upper within (by decide)
  · decide
  · decide
  · decide

/-- Small letters may stand in a scheme where capital letters may, and stay as they are. -/
theorem small_of_isSchemeChar {c : Char} (plain : isSchemeChar c) :
    isSchemeChar c.toLower ∧ (c.isAlpha → c.toLower.isAlpha) ∧
      c.toLower.toLower = c.toLower := by
  have small : ∀ code : Fin 128, isSchemeChar (Char.ofNat code) →
      isSchemeChar (Char.ofNat code).toLower ∧
        ((Char.ofNat code).isAlpha → (Char.ofNat code).toLower.isAlpha) ∧
          (Char.ofNat code).toLower.toLower = (Char.ofNat code).toLower := by
    decide
  have coded := small ⟨c.toNat, toNat_of_isSchemeChar plain⟩
  rw [Char.ofNat_toNat] at coded
  exact coded plain

/-- Schemes are as good in small letters. -/
theorem IsScheme.small (proper : IsScheme scheme) : IsScheme (scheme.map Char.toLower) := by
  obtain ⟨c, first, letter⟩ := proper.letter
  have plain := proper.plain c (List.mem_of_head? first)
  refine ⟨⟨c.toLower, ?_, (small_of_isSchemeChar plain).2.1 letter⟩, fun d member => ?_⟩
  · rw [List.head?_map, first]
    rfl
  · obtain ⟨c, inside, rfl⟩ := List.mem_map.mp member
    exact (small_of_isSchemeChar (proper.plain c inside)).1

/-- Small letters stay small. -/
theorem IsScheme.small_small (proper : IsScheme scheme) :
    (scheme.map Char.toLower).map Char.toLower = scheme.map Char.toLower := by
  rw [List.map_map]
  exact List.map_congr_left fun c member =>
    (small_of_isSchemeChar (proper.plain c member)).2.2

/-- A scheme is cut off, in small letters. -/
theorem cutScheme_append_cons (proper : IsScheme scheme) (standard rest : List Char) :
    cutScheme standard (scheme ++ ':' :: rest) = (scheme.map Char.toLower, rest) := by
  obtain ⟨c, first, letter⟩ := proper.letter
  have colon : ':' ∉ scheme := fun member => absurd (proper.plain _ member) (by decide)
  have head : (scheme ++ ':' :: rest).head? = some c := by
    rw [List.head?_append, first]
    rfl
  rw [cutScheme, cut_append_cons colon, head]
  dsimp only
  rw [letter, List.all_eq_true.mpr proper.plain]
  rfl

/-- Without a scheme the standard one holds. -/
theorem cutScheme_of_not (bare : ¬HasScheme text) (standard : List Char) :
    cutScheme standard text = (standard, text) := by
  rw [cutScheme]
  rcases cut_cases ':' text with ⟨-, whole⟩ | ⟨front, rest, outside, split, parts⟩
  · rw [whole]
  · rw [parts]
    cases front with
    | nil =>
        rw [split]
        rfl
    | cons first front =>
        have head : text.head? = some first := by
          rw [split]
          rfl
        rw [head]
        dsimp only
        rw [if_neg]
        intro both
        obtain ⟨letter, plain⟩ := Bool.and_eq_true_iff.mp both
        exact bare ⟨first :: front, rest, ⟨⟨first, rfl, letter⟩, List.all_eq_true.mp plain⟩, split⟩

/-- What is cut off a text is a scheme in small letters, or the text has none. -/
theorem cutScheme_spec (same : cutScheme [] text = (scheme, rest)) :
    scheme = [] ∧ rest = text ∧ ¬HasScheme text ∨
      IsScheme scheme ∧ scheme.map Char.toLower = scheme ∧ rest ⊆ text := by
  by_cases named : HasScheme text
  · obtain ⟨found, after, proper, rfl⟩ := named
    rw [cutScheme_append_cons proper] at same
    obtain ⟨rfl, rfl⟩ := Prod.mk.inj same
    refine .inr ⟨proper.small, proper.small_small, fun c member => ?_⟩
    exact List.mem_append_right _ (List.mem_cons_of_mem _ member)
  · rw [cutScheme_of_not named] at same
    obtain ⟨none, whole⟩ := Prod.mk.inj same
    exact .inl ⟨none.symm, whole.symm, named⟩

/-- Text that begins like no scheme has none. -/
theorem not_hasScheme_cons {c : Char} (other : ¬isSchemeChar c) (rest : List Char) :
    ¬HasScheme (c :: rest) := by
  rintro ⟨scheme, after, proper, split⟩
  obtain ⟨d, first, -⟩ := proper.letter
  obtain ⟨others, rfl⟩ := List.head?_eq_some_iff.mp first
  obtain ⟨rfl, -⟩ := List.cons_eq_cons.mp split
  exact other (proper.plain _ List.mem_cons_self)

/-- A scheme of a text is one of its beginning, unless what follows that begins like a scheme. -/
theorem HasScheme.of_append (named : HasScheme (front ++ rest))
    (stops : ∀ c, rest.head? = some c → c ≠ ':' ∧ ¬isSchemeChar c) : HasScheme front := by
  obtain ⟨scheme, after, proper, split⟩ := named
  rcases List.append_eq_append_iff.mp split with ⟨more, rfl, behind⟩ | ⟨more, rfl, behind⟩
  · cases more with
    | nil =>
        rw [List.nil_append] at behind
        exact absurd rfl (stops ':' (by rw [behind]; rfl)).1
    | cons c more =>
        have inside := proper.plain c (List.mem_append_right _ List.mem_cons_self)
        exact absurd inside (stops c (by rw [behind]; rfl)).2
  · cases more with
    | nil =>
        rw [List.nil_append] at behind
        exact absurd rfl (stops ':' (by rw [← behind]; rfl)).1
    | cons c more =>
        obtain ⟨rfl, rfl⟩ := List.cons_eq_cons.mp behind
        exact ⟨scheme, more, proper, rfl⟩

/-- A scheme stays one whatever comes after the text. -/
theorem HasScheme.append (named : HasScheme front) (rest : List Char) :
    HasScheme (front ++ rest) := by
  obtain ⟨scheme, after, proper, rfl⟩ := named
  exact ⟨scheme, after ++ rest, proper, List.append_assoc _ _ _⟩

/-! ## What must not stand in an address -/

/-- A tab or a line end. -/
def IsBreak (c : Char) : Prop := c = '\t' ∨ c = '\n' ∨ c = '\r'

/-- Text without breaks that begins with no space and no control character. -/
structure IsClean (text : List Char) : Prop where
  unbroken : ∀ c ∈ text, ¬IsBreak c
  begins : ∀ c, text.head? = some c → ¬c ≤ ' '

/-- What is kept of a text is all that is no break. -/
theorem isBreak_iff (c : Char) :
    (c ≠ '\t' && c ≠ '\n' && c ≠ '\r') = true ↔ ¬IsBreak c := by
  simp [IsBreak, and_assoc]

/-- Clean text is left as it is. -/
theorem IsClean.clean_eq (proper : IsClean text) : clean text = text := by
  have kept : text.dropWhile (fun c => decide (c ≤ ' ')) = text := by
    cases text with
    | nil => rfl
    | cons c rest =>
        exact List.dropWhile_cons_of_neg (by simpa using proper.begins c rfl)
  rw [clean, kept]
  exact List.filter_eq_self.mpr fun c member => (isBreak_iff c).mpr (proper.unbroken c member)

/-- What is left of any text is clean. -/
theorem isClean_clean (text : List Char) : IsClean (clean text) := by
  refine ⟨fun c member => (isBreak_iff c).mp (List.mem_filter.mp member).2, fun c first => ?_⟩
  have begins := List.head?_dropWhile_not (fun c => decide (c ≤ ' ')) text
  rw [clean] at first
  cases kept : text.dropWhile (fun c => decide (c ≤ ' ')) with
  | nil =>
      rw [kept] at first
      cases first
  | cons d rest =>
      rw [kept] at first begins
      have above : ¬d ≤ ' ' := of_decide_eq_false begins
      have whole : ¬IsBreak d := by
        rintro (rfl | rfl | rfl) <;> exact above (by decide)
      rw [List.filter_cons, if_pos ((isBreak_iff d).mpr whole)] at first
      cases first
      exact above

/-- What may stand in a scheme is no break and no space. -/
theorem clean_of_isSchemeChar {c : Char} (plain : isSchemeChar c) : ¬IsBreak c ∧ ¬c ≤ ' ' := by
  have above : ∀ code : Fin 128, isSchemeChar (Char.ofNat code) → ¬Char.ofNat code ≤ ' ' := by
    decide
  have visible := above ⟨c.toNat, toNat_of_isSchemeChar plain⟩
  rw [Char.ofNat_toNat] at visible
  refine ⟨?_, visible plain⟩
  rintro (rfl | rfl | rfl)
  · exact absurd plain (by decide)
  · exact absurd plain (by decide)
  · exact absurd plain (by decide)

/-! ## Authorities -/

/-- What ends an authority. -/
def EndsAuthority (c : Char) : Prop := c = '/' ∨ c = '?' ∨ c = '#'

/-- An authority goes on up to what ends it. -/
theorem goesOn_iff (c : Char) :
    (c ≠ '/' && c ≠ '?' && c ≠ '#') = true ↔ ¬EndsAuthority c := by
  simp [EndsAuthority, and_assoc]

/-- Behind two slashes there is an authority. -/
theorem cutAuthority_slashes {authority : List Char} (inside : ∀ c ∈ authority, ¬EndsAuthority c)
    (stops : ∀ c, rest.head? = some c → EndsAuthority c) :
    cutAuthority ('/' :: '/' :: (authority ++ rest)) = (authority, rest) := by
  have goesOn : ∀ c ∈ authority, (c ≠ '/' && c ≠ '?' && c ≠ '#') = true := fun c member =>
    (goesOn_iff c).mpr (inside c member)
  rw [cutAuthority, List.takeWhile_append_of_pos goesOn, List.dropWhile_append_of_pos goesOn]
  cases rest with
  | nil => rw [List.takeWhile_nil, List.append_nil, List.dropWhile_nil]
  | cons c rest =>
      have ends : ¬(c ≠ '/' && c ≠ '?' && c ≠ '#') = true := fun goes =>
        (goesOn_iff c).mp goes (stops c rfl)
      rw [List.takeWhile_cons, if_neg ends, List.append_nil, List.dropWhile_cons, if_neg ends]

/-- Without two slashes there is no authority. -/
theorem cutAuthority_of_not (bare : text.take 2 ≠ ['/', '/']) : cutAuthority text = ([], text) := by
  unfold cutAuthority
  split
  · exact absurd rfl bare
  · rfl

/-- What is cut off a text goes on up to what ends an authority, or the text is left whole. -/
theorem cutAuthority_spec {authority : List Char} (same : cutAuthority text = (authority, rest)) :
    (∀ c ∈ authority, ¬EndsAuthority c) ∧ authority ⊆ text ∧ rest ⊆ text ∧
      (rest = text ∨ ∀ c, rest.head? = some c → EndsAuthority c) := by
  unfold cutAuthority at same
  split at same
  · next after =>
    obtain ⟨rfl, rfl⟩ := Prod.mk.inj same
    refine ⟨fun c member => ?_, fun c member => ?_, fun c member => ?_, .inr fun c first => ?_⟩
    · have inside := List.mem_takeWhile_imp member
      exact (goesOn_iff c).mp inside
    · have inside := (List.takeWhile_sublist _).subset member
      exact List.mem_cons_of_mem _ (List.mem_cons_of_mem _ inside)
    · have inside := (List.dropWhile_sublist _).subset member
      exact List.mem_cons_of_mem _ (List.mem_cons_of_mem _ inside)
    · have ends := List.head?_dropWhile_not (fun c => c ≠ '/' && c ≠ '?' && c ≠ '#') after
      rw [first] at ends
      change _ = false at ends
      by_contra other
      exact Bool.false_ne_true (ends.symm.trans ((goesOn_iff c).mpr other))
  · obtain ⟨rfl, rfl⟩ := Prod.mk.inj same
    exact ⟨fun c member => (nomatch member), List.nil_subset _, List.Subset.refl _, .inl rfl⟩

/-! ## Reading back -/

/-- Whether two slashes stand in front of the authority, even if that is empty. -/
def slashed (address : Address) : Bool :=
  !address.authority.isEmpty ||
    (!address.scheme.isEmpty && isAmong authoritySchemes address.scheme) ||
    address.path.take 2 = ['/', '/']

/-- A scheme and its colon. -/
def named (scheme : List Char) : List Char :=
  if scheme.isEmpty then [] else scheme ++ [':']

/-- The query and the fragment behind their marks. -/
def tail (address : Address) : List Char :=
  marked '?' address.query ++ marked '#' address.fragment

/-- A path behind an authority begins with a slash. -/
def rootedPath (path : List Char) : List Char :=
  if path.isEmpty || path.head? = some '/' then path else '/' :: path

/-- An address without parameters, as it is written. -/
theorem render_of_plain {address : Address} (plain : address.parameters = []) :
    address.render = named address.scheme ++
      ((if address.slashed then '/' :: '/' :: (address.authority ++ rootedPath address.path)
        else address.path) ++ address.tail) := by
  unfold render
  rw [plain, List.isEmpty_nil, if_pos rfl, List.append_nil]
  dsimp only
  rw [List.append_assoc, List.append_assoc]
  rfl

/-- What is put together has the characters of the parts and their marks. -/
theorem mem_render {address : Address} {c : Char} (member : c ∈ address.render) :
    c ∈ [':', '/', ';', '?'] ∨ c ∈ address.scheme ∨ c ∈ address.authority ∨ c ∈ address.path ∨
      c ∈ address.parameters ∨ c ∈ address.query ∨ c ∈ marked '#' address.fragment := by
  unfold render at member
  unfold marked
  grind

/-- Text that is taken for a path without anything in front of it. -/
structure IsBare (path : List Char) : Prop where
  unnamed : ¬HasScheme path
  begins : ∀ c, path.head? = some c → ¬c ≤ ' '

/-- **Parts as they are read.** No part has what ends it. -/
structure Read (address : Address) : Prop where
  parameters : address.parameters = []
  scheme : address.scheme = [] ∨ IsScheme address.scheme
  small : address.scheme.map Char.toLower = address.scheme
  bare : address.scheme = [] → IsBare address.path
  authority : ∀ c ∈ address.authority, ¬EndsAuthority c
  brackets : address.authority.contains '[' = address.authority.contains ']'
  path : '?' ∉ address.path ∧ '#' ∉ address.path
  query : '#' ∉ address.query
  unbroken : ∀ c ∈ address.authority ++ address.path ++ (address.query ++ address.fragment),
    ¬IsBreak c

/-- **Parts as they are read back.** Behind two slashes a path begins with a slash. -/
structure Proper (address : Address) : Prop extends Read address where
  rooted : address.slashed → rootedPath address.path = address.path

variable {address : Address}

/-- What comes after the path begins with a mark. -/
theorem head?_tail {c : Char} (first : address.tail.head? = some c) : c = '?' ∨ c = '#' := by
  rw [tail, List.head?_append, Option.or_eq_some_iff] at first
  rcases first with first | ⟨-, first⟩
  · exact .inl (head?_marked first)
  · exact .inr (head?_marked first)

/-- A path has what it had behind an authority, or a slash in front of it. -/
theorem rootedPath_cases (path : List Char) :
    rootedPath path = path ∨ rootedPath path = '/' :: path ∧ path.head? ≠ some '/' := by
  rw [rootedPath]
  split
  · exact .inl rfl
  · next other =>
    rw [Bool.or_eq_true, decide_eq_true_eq, not_or] at other
    exact .inr ⟨rfl, other.2⟩

/-- A path behind an authority stays as it is. -/
theorem rootedPath_rootedPath (path : List Char) :
    rootedPath (rootedPath path) = rootedPath path := by
  rcases rootedPath_cases path with same | ⟨same, -⟩
  · rw [same, same]
  · rw [same]
    rfl

/-- A slash in front of a path makes no second one. -/
theorem take_rootedPath (path : List Char) :
    (rootedPath path).take 2 = ['/', '/'] ↔ path.take 2 = ['/', '/'] := by
  rcases rootedPath_cases path with same | ⟨same, other⟩
  · rw [same]
  · rw [same]
    cases path with
    | nil => exact iff_of_false (by decide) (by decide)
    | cons c rest =>
        have different : c ≠ '/' := fun slash => other (congrArg some slash)
        refine iff_of_false (fun doubled => ?_) fun doubled => ?_
        · obtain ⟨-, doubled⟩ := List.cons_eq_cons.mp doubled
          exact different (List.cons_eq_cons.mp doubled).1
        · exact different (List.cons_eq_cons.mp doubled).1

/-- A path that begins with nothing but a slash is bare. -/
theorem isBare_of_slash {path : List Char} (slash : ∀ c, path.head? = some c → c = '/') :
    IsBare path := by
  cases path with
  | nil =>
      refine ⟨?_, fun c first => by cases first⟩
      rintro ⟨scheme, rest, -, split⟩
      exact List.append_ne_nil_of_right_ne_nil _ (List.cons_ne_nil _ _) split.symm
  | cons c rest =>
      obtain rfl := slash c rfl
      refine ⟨not_hasScheme_cons (by decide) _, fun c first => ?_⟩
      cases first
      decide

/-- A slash in front of a bare path leaves it bare. -/
theorem IsBare.rooted {path : List Char} (bare : IsBare path) : IsBare (rootedPath path) := by
  rcases rootedPath_cases path with same | ⟨same, -⟩
  · rwa [same]
  · rw [same]
    exact isBare_of_slash fun c first => (Option.some.inj first).symm

/-- The beginning of a bare text is bare. -/
theorem IsBare.of_prefix {path : List Char} (bare : IsBare text) (within : path <+: text) :
    IsBare path := by
  obtain ⟨rest, rfl⟩ := within
  refine ⟨fun named => bare.unnamed (named.append rest), fun c first => bare.begins c ?_⟩
  rw [List.head?_append, first]
  rfl

/-- A path that is as it is behind an authority begins with a slash. -/
theorem head?_of_rootedPath {path : List Char} {c : Char} (rooted : rootedPath path = path)
    (first : path.head? = some c) : c = '/' := by
  cases path with
  | nil => cases first
  | cons d rest =>
      cases first
      by_contra other
      rw [rootedPath, if_neg (by simpa using other)] at rooted
      exact List.cons_ne_self _ _ rooted

/-- Authority and path as they are written. -/
def place (address : Address) : List Char :=
  if address.slashed then '/' :: '/' :: (address.authority ++ address.path) else address.path

namespace Proper

/-- Parts as they are read are written one after the other. -/
theorem render_eq (proper : address.Proper) :
    address.render = named address.scheme ++ (place address ++ address.tail) := by
  rw [render_of_plain proper.parameters, place]
  by_cases slashes : address.slashed = true
  · rw [if_pos slashes, if_pos slashes, proper.rooted slashes]
  · rw [if_neg slashes, if_neg slashes]

/-- The scheme is read back. -/
theorem cutScheme_eq (proper : address.Proper) :
    cutScheme [] (named address.scheme ++ (place address ++ address.tail)) =
      (address.scheme, place address ++ address.tail) := by
  rcases proper.scheme with none | scheme
  · rw [named, none, List.isEmpty_nil, if_pos rfl, List.nil_append]
    refine cutScheme_of_not (fun found => ?_) []
    have inPlace := found.of_append fun c first => by
      rcases head?_tail first with rfl | rfl
      · exact ⟨by decide, by decide⟩
      · exact ⟨by decide, by decide⟩
    rw [place] at inPlace
    split at inPlace
    · exact not_hasScheme_cons (by decide) _ inPlace
    · exact (proper.bare none).unnamed inPlace
  · obtain ⟨c, first, -⟩ := scheme.letter
    have filled : address.scheme.isEmpty = false := by
      rw [List.isEmpty_eq_false_iff]
      intro none
      rw [none] at first
      cases first
    rw [named, filled, if_neg Bool.false_ne_true, List.append_assoc, List.singleton_append,
      cutScheme_append_cons scheme, proper.small]

/-- The authority is read back. -/
theorem cutAuthority_eq (proper : address.Proper) :
    cutAuthority (place address ++ address.tail) =
      (address.authority, address.path ++ address.tail) := by
  by_cases slashes : address.slashed = true
  · rw [place, if_pos slashes, List.cons_append, List.cons_append, List.append_assoc]
    refine cutAuthority_slashes proper.authority fun c first => ?_
    rw [List.head?_append, Option.or_eq_some_iff] at first
    rcases first with first | ⟨-, first⟩
    · exact .inl (head?_of_rootedPath (proper.rooted slashes) first)
    · exact .inr (head?_tail first)
  · rw [place, if_neg slashes]
    simp only [slashed, Bool.or_eq_true, Bool.not_eq_true', decide_eq_true_eq, not_or] at slashes
    obtain ⟨⟨filled, -⟩, single⟩ := slashes
    have none : address.authority = [] := by
      rwa [List.isEmpty_eq_false_iff, not_not] at filled
    rw [none]
    refine cutAuthority_of_not fun doubled => ?_
    have noSlash (rest : List Char) : address.tail ≠ '/' :: rest := fun same => by
      rcases head?_tail (show address.tail.head? = some '/' by rw [same]; rfl) with other | other
      · exact absurd other (by decide)
      · exact absurd other (by decide)
    match path : address.path with
    | [] =>
        rw [path, List.nil_append] at doubled
        cases after : address.tail with
        | nil =>
            rw [after] at doubled
            cases doubled
        | cons c rest =>
            rw [after] at doubled
            obtain ⟨rfl, -⟩ := List.cons_eq_cons.mp doubled
            exact noSlash rest after
    | [c] =>
        rw [path] at doubled
        cases after : address.tail with
        | nil =>
            rw [after] at doubled
            cases doubled
        | cons d rest =>
            rw [after] at doubled
            obtain ⟨-, doubled⟩ := List.cons_eq_cons.mp doubled
            obtain ⟨rfl, -⟩ := List.cons_eq_cons.mp doubled
            exact noSlash rest after
    | c :: d :: rest =>
        rw [path] at doubled single
        exact single doubled

/-- No character of a scheme is a break or a space. -/
theorem clean_of_mem_scheme (proper : address.Proper) {c : Char} (member : c ∈ address.scheme) :
    ¬IsBreak c ∧ ¬c ≤ ' ' := by
  rcases proper.scheme with none | scheme
  · rw [none] at member
    cases member
  · exact clean_of_isSchemeChar (scheme.plain c member)

/-- What is put together of parts as they are read has no breaks. -/
theorem unbroken_render (proper : address.Proper) : ∀ c ∈ address.render, ¬IsBreak c := by
  have marks (c : Char) (mark : c ∈ [':', '/', ';', '?', '#']) : ¬IsBreak c := by
    simp only [List.mem_cons, List.not_mem_nil, or_false] at mark
    rcases mark with rfl | rfl | rfl | rfl | rfl <;> exact (isBreak_iff _).mp (by decide)
  have parts := proper.unbroken
  simp only [List.mem_append] at parts
  intro c member
  rcases mem_render member with mark | scheme | authority | path | parameters | query | fragment
  · exact marks c (List.mem_append_left ['#'] mark)
  · exact (proper.clean_of_mem_scheme scheme).1
  · exact parts c (.inl (.inl authority))
  · exact parts c (.inl (.inr path))
  · rw [proper.parameters] at parameters
    cases parameters
  · exact parts c (.inr (.inl query))
  · rcases eq_or_mem_of_mem_marked fragment with rfl | inside
    · exact marks _ (by decide)
    · exact parts c (.inr (.inr inside))

/-- What is put together of parts as they are read is clean. -/
theorem isClean_render (proper : address.Proper) : IsClean address.render := by
  refine ⟨proper.unbroken_render, fun c first => ?_⟩
  rw [proper.render_eq, List.head?_append, Option.or_eq_some_iff] at first
  rcases proper.scheme with none | scheme
  · rw [named, none, List.isEmpty_nil, if_pos rfl] at first
    rcases first with first | ⟨-, first⟩
    · cases first
    rw [List.head?_append, Option.or_eq_some_iff] at first
    rcases first with first | ⟨-, first⟩
    · rw [place] at first
      split at first
      · cases first
        decide
      · exact (proper.bare none).begins c first
    · rcases head?_tail first with rfl | rfl
      · decide
      · decide
  · obtain ⟨d, letter, -⟩ := scheme.letter
    have begins : (named address.scheme).head? = some d := by
      rw [named]
      split
      · next none =>
        rw [List.isEmpty_iff.mp none] at letter
        cases letter
      · rw [List.head?_append, letter]
        rfl
    rw [begins] at first
    rcases first with first | ⟨none, -⟩
    · cases first
      exact (proper.clean_of_mem_scheme (List.mem_of_head? letter)).2
    · cases none

/-- **Parts are read back.** -/
theorem scan?_render (proper : address.Proper) : scan? [] address.render = some address := by
  have outside : '#' ∉ address.path ++ marked '?' address.query := by
    intro member
    rcases List.mem_append.mp member with member | member
    · exact proper.path.2 member
    · rcases eq_or_mem_of_mem_marked member with other | member
      · exact absurd other (by decide)
      · exact proper.query member
  obtain ⟨fragment, cutFragment, sameFragment⟩ :=
    cut_append_marked outside address.fragment
  obtain ⟨query, cutQuery, sameQuery⟩ := cut_append_marked proper.path.1 address.query
  unfold scan?
  rw [proper.isClean_render.clean_eq, proper.render_eq, proper.cutScheme_eq]
  dsimp only
  rw [proper.cutAuthority_eq]
  dsimp only
  rw [tail, ← List.append_assoc, cutFragment]
  dsimp only
  rw [cutQuery]
  dsimp only
  rw [sameQuery, sameFragment, proper.brackets, if_neg (by simp), ← proper.parameters]

end Proper

/-- What a text is read as, part by part. -/
theorem scan?_eq_some (scanned : scan? standard text = some address) :
    ∃ rest behind, cutScheme standard (clean text) = (address.scheme, rest) ∧
      cutAuthority rest = (address.authority, behind) ∧
      (cut '?' (cut '#' behind).1).1 = address.path ∧
      (cut '?' (cut '#' behind).1).2.getD [] = address.query ∧
      (cut '#' behind).2.getD [] = address.fragment ∧ address.parameters = [] ∧
      address.authority.contains '[' = address.authority.contains ']' := by
  unfold scan? at scanned
  dsimp only at scanned
  split at scanned
  · cases scanned
  · next balanced =>
    cases scanned
    refine ⟨_, _, rfl, rfl, rfl, rfl, rfl, rfl, ?_⟩
    simpa using balanced

/-- The address with a slash in front of its path, where that is written. -/
def rooted (address : Address) : Address :=
  if address.slashed then { address with path := rootedPath address.path } else address

/-- The slash makes no difference for those in front of the authority. -/
theorem slashed_rooted (address : Address) : address.rooted.slashed = address.slashed := by
  rw [rooted]
  split
  · rw [slashed, slashed]
    exact congrArg _ (decide_eq_decide.mpr (take_rootedPath address.path))
  · rfl

/-- The slash is written anyway. -/
theorem render_rooted (plain : address.parameters = []) :
    address.rooted.render = address.render := by
  have same := slashed_rooted address
  by_cases slashes : address.slashed = true
  · rw [rooted, if_pos slashes] at same ⊢
    have written := @render_of_plain { address with path := rootedPath address.path } plain
    rw [written, render_of_plain plain, same, if_pos slashes, if_pos slashes]
    dsimp only
    rw [rootedPath_rootedPath]
    rfl
  · rw [rooted, if_neg slashes]

/-- With the slash, parts that are read are read back. -/
theorem Read.proper (read : address.Read) : address.rooted.Proper := by
  by_cases slashes : address.slashed = true
  · have stays : address.rooted.slashed → rootedPath address.rooted.path = address.rooted.path := by
      rw [rooted, if_pos slashes]
      exact fun _ => rootedPath_rootedPath _
    have members {c : Char} (member : c ∈ rootedPath address.path) :
        c = '/' ∨ c ∈ address.path := by
      rcases rootedPath_cases address.path with same | ⟨same, -⟩
      · exact .inr (same ▸ member)
      · exact List.mem_cons.mp (same ▸ member)
    refine ⟨?_, stays⟩
    rw [rooted, if_pos slashes]
    refine ⟨read.parameters, read.scheme, read.small, fun none => (read.bare none).rooted,
      read.authority, read.brackets, ⟨?_, ?_⟩, read.query, ?_⟩
    · intro member
      exact (members member).elim (by decide) read.path.1
    · intro member
      exact (members member).elim (by decide) read.path.2
    · intro c member
      have parts := read.unbroken
      simp only [List.mem_append] at member parts
      rcases member with (authority | path) | rest
      · exact parts c (.inl (.inl authority))
      · rcases members path with rfl | path
        · exact (isBreak_iff _).mp (by decide)
        · exact parts c (.inl (.inr path))
      · exact parts c (.inr rest)
  · rw [rooted, if_neg slashes]
    exact ⟨read, fun slashed => absurd slashed slashes⟩

/-- What is read has parts as they are read. -/
theorem read_of_scan? (scanned : scan? [] text = some address) : address.Read := by
  obtain ⟨rest, behind, cutScheme, cutAuthority, path, query, fragment, parameters, brackets⟩ :=
    scan?_eq_some scanned
  have cleaned := isClean_clean text
  obtain ⟨noHash, frontOf, fragmentIn⟩ := cut_spec '#' behind
  obtain ⟨noQuestion, pathOf, queryIn⟩ := cut_spec '?' (cut '#' behind).1
  rw [path] at noQuestion pathOf
  rw [query] at queryIn
  rw [fragment] at fragmentIn
  have within : address.path <+: behind := pathOf.trans frontOf
  have noHashInPath : '#' ∉ address.path := fun member => noHash (pathOf.subset member)
  have noHashInQuery : '#' ∉ address.query := fun member => noHash (queryIn member)
  have named := cutScheme_spec cutScheme
  obtain ⟨goesOn, authorityIn, behindIn, whole⟩ := cutAuthority_spec cutAuthority
  have inside : rest ⊆ clean text := by
    rcases named with ⟨-, same, -⟩ | ⟨-, -, inside⟩
    · rw [same]
      exact List.Subset.refl _
    · exact inside
  refine ⟨parameters, named.imp (·.1) (·.1), ?_, fun none => ?_, goesOn, brackets,
    ⟨noQuestion, noHashInPath⟩, noHashInQuery, fun c member => cleaned.unbroken c (inside ?_)⟩
  · rcases named with ⟨none, -⟩ | ⟨-, small, -⟩
    · rw [none]
      rfl
    · exact small
  · rcases named with ⟨-, same, bare⟩ | ⟨proper, -⟩
    · rcases whole with whole | stops
      · rw [whole, same] at within
        exact IsBare.of_prefix ⟨bare, cleaned.begins⟩ within
      · refine isBare_of_slash fun c first => ?_
        obtain ⟨others, split⟩ := within
        have member := List.mem_of_head? first
        rcases stops c (by rw [← split, List.head?_append, first]; rfl) with slash | rfl | rfl
        · exact slash
        · exact absurd member noQuestion
        · exact absurd member noHashInPath
    · obtain ⟨c, first, -⟩ := proper.letter
      rw [none] at first
      cases first
  · simp only [List.mem_append] at member
    rcases member with (authority | path) | query | fragment
    · exact authorityIn authority
    · exact behindIn (within.subset path)
    · exact behindIn (frontOf.subset (queryIn query))
    · exact behindIn (fragmentIn fragment)

/-- **Normal forms.** An address that was taken apart and put together is written as it is when that
is done again. -/
theorem normal?_normal? {written : List Char} (once : normal? text = some written) :
    normal? written = some written := by
  obtain ⟨address, scanned, rfl⟩ := Option.map_eq_some_iff.mp once
  have read := read_of_scan? scanned
  rw [normal?, ← render_rooted read.parameters, read.proper.scan?_render, Option.map_some]

example : normal? "HTTP:definitions?#port".toList = some "http:///definitions#port".toList := by
  decide +kernel

/-! ## Documents -/

/-- Parameters are cut off the path. -/
theorem cutParameters_subset (path : List Char) :
    (cutParameters path).1 ⊆ path ∧ (cutParameters path).2 ⊆ path := by
  have last : (path.reverse.takeWhile fun c => decide (c ≠ '/')).reverse ⊆ path := fun c member =>
    List.mem_reverse.mp ((List.takeWhile_sublist _).subset (List.mem_reverse.mp member))
  unfold cutParameters
  dsimp only
  rcases cut_cases ';' (path.reverse.takeWhile fun c => decide (c ≠ '/')).reverse with
    ⟨-, same⟩ | ⟨name, parameters, -, split, same⟩
  · rw [same]
    exact ⟨List.Subset.refl _, List.nil_subset _⟩
  · rw [same]
    rw [split] at last
    refine ⟨List.append_subset.mpr ⟨List.take_subset _ _, ?_⟩, ?_⟩
    · exact fun c member => last (List.mem_append_left _ member)
    · exact fun c member => last (List.mem_append_right _ (List.mem_cons_of_mem _ member))

/-- Only a fragment that is read can have a number sign. -/
theorem hash_notMem_of_parse? (parsed : parse? [] text = some address) :
    '#' ∉ address.scheme ∧ '#' ∉ address.authority ∧ '#' ∉ address.path ∧
      '#' ∉ address.parameters ∧ '#' ∉ address.query := by
  obtain ⟨whole, scanned, parts⟩ := Option.bind_eq_some_iff.mp parsed
  have read := read_of_scan? scanned
  have scheme : '#' ∉ whole.scheme := fun member => by
    rcases read.scheme with none | proper
    · rw [none] at member
      cases member
    · exact absurd (proper.plain _ member) (by decide)
  have authority : '#' ∉ whole.authority := fun member =>
    read.authority _ member (.inr (.inr rfl))
  obtain ⟨path, parameters⟩ := cutParameters_subset whole.path
  split at parts
  · cases parts
    exact ⟨scheme, authority, fun member => read.path.2 (path member),
      fun member => read.path.2 (parameters member), read.query⟩
  · cases parts
    refine ⟨scheme, authority, read.path.2, ?_, read.query⟩
    rw [read.parameters]
    exact List.not_mem_nil

/-- **Documents.** The document that an address names has no fragment of its own. -/
theorem hash_notMem_document {document fragment : List Char}
    (parts : split? text = some (document, fragment)) : '#' ∉ document := by
  unfold split? at parts
  split at parts
  · obtain ⟨address, parsed, same⟩ := Option.map_eq_some_iff.mp parts
    obtain ⟨scheme, authority, path, parameters, query⟩ := hash_notMem_of_parse? parsed
    cases same
    intro member
    rcases mem_render member with mark | inside | inside | inside | inside | inside | inside
    · exact absurd mark (by decide)
    · exact scheme inside
    · exact authority inside
    · exact path inside
    · exact parameters inside
    · exact query inside
    · exact List.not_mem_nil inside
  · next without =>
    cases parts
    exact fun member => without (List.contains_iff_mem.mpr member)

end Hexwire.Schema.Address
