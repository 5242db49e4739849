import Hexwire.Value.Scatter
import Mathlib.RingTheory.ZMod.UnitsCyclic

/-! # Sets show what they were given

Putting a member into a table must not take the place of another. The places that are tried for a
code are followed here one by one (`Hexwire.Value.Scatter.probe`). Once nothing of the code is left,
a place leads to five times itself and one; in a table whose size is a power of two this passes
through every place, since five has the largest order that a residue can have. A table that is not
full therefore has a free place among those that are tried, and as tables grow in time, a set shows
just the members that it was given (`Hexwire.Value.scattered_perm`).
-/

namespace Hexwire.Value

namespace Scatter

/-- The place after another where nothing of a code is left. -/
def next (size place : Nat) : Nat := (place * 5 + 1) % size

/-- The place that is tried for a code after a number of others. -/
def probe (size : Nat) : Nat → Nat → Nat → Nat
  | 0, place, _ => place
  | tries + 1, place, rest => probe size tries ((place * 5 + 1 + rest / 32) % size) (rest / 32)

/-! ## Every place is passed -/

/-- The next place is in the table. -/
theorem next_lt {size : Nat} (positive : 0 < size) (place : Nat) : next size place < size :=
  Nat.mod_lt _ positive

/-- However many tries there are, the place is in the table. -/
theorem iterate_next_lt {size place : Nat} (within : place < size) (tries : Nat) :
    (next size)^[tries] place < size := by
  cases tries with
  | zero => exact within
  | succ tries =>
      rw [Function.iterate_succ_apply']
      exact next_lt (Nat.zero_lt_of_lt within) _

/-- One more than four times a place is multiplied by five from each place to the next. -/
theorem iterate_next_modEq (bits place tries : Nat) :
    4 * (next (2 ^ bits))^[tries] place + 1 ≡ 5 ^ tries * (4 * place + 1) [MOD 2 ^ (bits + 2)] := by
  induction tries with
  | zero => simp [Nat.ModEq]
  | succ tries ih =>
      rw [Function.iterate_succ_apply']
      generalize (next (2 ^ bits))^[tries] place = reached at ih ⊢
      have step : 4 * next (2 ^ bits) reached + 1 ≡ 4 * (reached * 5 + 1) + 1
          [MOD 2 ^ (bits + 2)] := by
        rw [pow_add, mul_comm (2 ^ bits)]
        exact ((Nat.mod_modEq (reached * 5 + 1) (2 ^ bits)).mul_left' 4).add_right 1
      calc 4 * next (2 ^ bits) reached + 1
          ≡ 5 * (4 * reached + 1) [MOD 2 ^ (bits + 2)] := by
            rwa [show 5 * (4 * reached + 1) = 4 * (reached * 5 + 1) + 1 by ring]
        _ ≡ 5 * (5 ^ tries * (4 * place + 1)) [MOD 2 ^ (bits + 2)] := ih.mul_left 5
        _ = 5 ^ (tries + 1) * (4 * place + 1) := by ring

/-- No place comes back before as many steps as there are places. -/
theorem iterate_next_injOn (bits place : Nat) :
    Set.InjOn (fun tries => (next (2 ^ bits))^[tries] place) (Set.Iio (2 ^ bits)) := by
  intro first firstLess second secondLess same
  dsimp only at same
  have powers : 5 ^ first * (4 * place + 1) ≡ 5 ^ second * (4 * place + 1)
      [MOD 2 ^ (bits + 2)] := by
    refine (iterate_next_modEq bits place first).symm.trans ?_
    rw [same]
    exact iterate_next_modEq bits place second
  have coprime : Nat.gcd (2 ^ (bits + 2)) (4 * place + 1) = 1 :=
    Nat.Coprime.pow_left _ ((Nat.coprime_two_left).mpr ⟨2 * place, by ring⟩)
  have residues : (5 : ZMod (2 ^ (bits + 2))) ^ first = 5 ^ second := by
    exact_mod_cast (ZMod.natCast_eq_natCast_iff _ _ _).mpr
      (Nat.ModEq.cancel_right_of_coprime coprime powers)
  refine pow_injOn_Iio_orderOf ?_ ?_ residues <;> rw [ZMod.orderOf_five] <;> assumption

/-- Every place of a power of two is reached from every other. -/
theorem exists_iterate_next {bits place wanted : Nat} (within : place < 2 ^ bits)
    (inside : wanted < 2 ^ bits) :
    ∃ tries < 2 ^ bits, (next (2 ^ bits))^[tries] place = wanted := by
  let reached (tries : Fin (2 ^ bits)) : Fin (2 ^ bits) := ⟨_, iterate_next_lt within tries⟩
  have injective : Function.Injective reached := fun first second same =>
    Fin.ext (iterate_next_injOn bits place first.isLt second.isLt (Fin.ext_iff.mp same))
  obtain ⟨tries, found⟩ := Finite.injective_iff_surjective.mp injective ⟨wanted, inside⟩
  exact ⟨tries, tries.isLt, Fin.ext_iff.mp found⟩

/-- After as many places as the code has groups of five bits nothing of it is left. -/
theorem exists_probe_eq_iterate {size : Nat} (groups : Nat) {place rest : Nat}
    (within : place < size) (small : rest < 32 ^ groups) :
    ∃ later < size, ∀ tries,
      probe size (tries + groups) place rest = (next size)^[tries] later := by
  induction groups generalizing place rest with
  | zero =>
      obtain rfl : rest = 0 := by simpa using small
      refine ⟨place, within, fun tries => ?_⟩
      clear within
      induction tries generalizing place with
      | zero => rfl
      | succ tries ih => exact ih
  | succ groups ih =>
      exact ih (Nat.mod_lt _ (Nat.zero_lt_of_lt within))
        (Nat.div_lt_of_lt_mul (by rwa [← pow_succ']))

/-- Every place is tried for every code. -/
theorem exists_probe_eq {bits place rest wanted : Nat} (within : place < 2 ^ bits)
    (small : rest < codes) (inside : wanted < 2 ^ bits) :
    ∃ tries < 2 ^ bits + 16, probe (2 ^ bits) tries place rest = wanted := by
  have groups : codes ≤ 32 ^ 13 := by decide
  obtain ⟨later, laterWithin, reached⟩ :=
    exists_probe_eq_iterate 13 within (small.trans_le groups)
  obtain ⟨tries, few, found⟩ := exists_iterate_next laterWithin inside
  exact ⟨tries + 13, by omega, (reached tries).trans found⟩

/-! ## Free places are found -/

namespace Table

variable {table : Table}

/-- The place that is found is in the table. -/
theorem seek_lt {count place rest : Nat} (within : place < table.size) :
    table.seek count place rest < table.size := by
  induction count generalizing place rest with
  | zero => exact within
  | succ count ih =>
      rw [seek]
      dsimp only
      split
      · next step found =>
          have near : step < _ := List.mem_range.mp (List.mem_of_find?_eq_some found)
          split at near <;> omega
      · exact ih (Nat.mod_lt _ (Nat.zero_lt_of_lt within))

/-- Where one of the places that are tried is free, a free one is found. -/
theorem isFree_seek {count tries place rest : Nat} (few : tries < count)
    (free : table.isFree (probe table.size tries place rest)) :
    table.isFree (table.seek count place rest) := by
  induction count generalizing tries place rest with
  | zero => exact absurd few (Nat.not_lt_zero tries)
  | succ count ih =>
      rw [seek]
      dsimp only
      split
      · next step found =>
          exact List.find?_some (p := fun step => table.isFree (place + step)) found
      · next none =>
          cases tries with
          | zero =>
              refine absurd free (List.find?_eq_none.mp none 0 (List.mem_range.mpr ?_))
              split <;> omega
          | succ tries => exact ih (Nat.lt_of_succ_lt_succ few) free

/-- A table that is not full has a free place. -/
theorem exists_isFree (room : table.members.length < table.size) :
    ∃ place < table.size, table.isFree place := by
  obtain ⟨entry, entered, empty⟩ :=
    List.length_filterMap_lt_length_iff_exists.mp (room.trans_eq table.length_toList.symm)
  obtain ⟨place, within, found⟩ := List.mem_iff_getElem.mp entered
  refine ⟨place, within, ?_⟩
  have here : table[place]? = some none := by
    rw [← Array.getElem?_toList, List.getElem?_eq_getElem within, found]
    exact congrArg some empty
  rw [isFree, here]
  rfl

/-- A member that goes to a free place comes to the others. -/
theorem members_setIfInBounds {place : Nat} (within : place < table.size)
    (free : table.isFree place) (member : Nat × Value) :
    (members (table.setIfInBounds place (some member))).Perm (member :: table.members) := by
  have listed : place < table.toList.length := within
  have here : table.toList[place] = none := by
    rw [isFree, Array.getElem?_eq_getElem within] at free
    exact Option.isNone_iff_eq_none.mp free
  have split : table.toList =
      table.toList.take place ++ none :: table.toList.drop (place + 1) := by
    rw [← here, List.getElem_cons_drop, List.take_append_drop]
  rw [members, members, Array.toList_setIfInBounds, List.set_eq_take_append_cons_drop,
    if_pos listed]
  conv => rhs; rw [split]
  simp only [List.filterMap_append, List.filterMap_cons, id_eq]
  exact List.perm_middle

/-! ## Tables grow in time -/

/-- A table as it is built: with a power of two of places and members with codes. -/
structure IsBuilt (table : Table) : Prop where
  size_eq : ∃ bits, table.size = 2 ^ bits
  coded : ∀ member ∈ table.members, member.1 < codes

/-- A value is put without a change of the size. -/
theorem size_put (table : Table) (code : Nat) (value : Value) :
    (table.put code value).size = table.size := Array.size_setIfInBounds

/-- A value that is put joins the members. -/
theorem members_put (built : table.IsBuilt) (room : table.members.length < table.size)
    {code : Nat} (coded : code < codes) (value : Value) :
    (table.put code value).members.Perm ((code, value) :: table.members) := by
  obtain ⟨bits, size⟩ := built.size_eq
  have within : code % table.size < table.size := Nat.mod_lt _ (Nat.zero_lt_of_lt room)
  obtain ⟨wanted, inside, free⟩ := exists_isFree room
  obtain ⟨tries, few, found⟩ := exists_probe_eq (size ▸ within) coded (size ▸ inside)
  refine members_setIfInBounds (seek_lt within) (isFree_seek (size ▸ few) ?_) _
  rwa [size, found]

/-- A table stays well built when a value is put into it. -/
theorem IsBuilt.put (built : table.IsBuilt) (room : table.members.length < table.size)
    {code : Nat} (coded : code < codes) (value : Value) : (table.put code value).IsBuilt where
  size_eq := by rw [size_put]; exact built.size_eq
  coded member among := by
    rcases List.mem_cons.mp ((members_put built room coded value).mem_iff.mp among) with rfl | old
    · exact coded
    · exact built.coded member old

/-- An empty table has no members. -/
theorem members_empty (size : Nat) : (empty size).members = [] := by
  simp [members, empty]

/-- An empty table has the size that it was made with. -/
theorem size_empty (size : Nat) : (empty size).size = size := Array.size_replicate

/-- An empty table with a power of two of places is built. -/
theorem isBuilt_empty (bits : Nat) : (empty (2 ^ bits)).IsBuilt where
  size_eq := ⟨bits, size_empty _⟩
  coded := by simp [members_empty]

/-- Members that are put one after the other into a table with room for all of them. -/
theorem putAll {members : List (Nat × Value)} (coded : ∀ member ∈ members, member.1 < codes)
    (built : table.IsBuilt) (room : table.members.length + members.length ≤ table.size) :
    let filled := members.foldl (fun larger (code, value) => larger.put code value) table
    filled.IsBuilt ∧ filled.size = table.size ∧
      filled.members.Perm (table.members ++ members) := by
  induction members generalizing table with
  | nil => exact ⟨built, rfl, by rw [List.append_nil]; rfl⟩
  | cons member rest ih =>
      obtain ⟨code, value⟩ := member
      rw [List.length_cons] at room
      have free : table.members.length < table.size := by omega
      have own : code < codes := coded _ List.mem_cons_self
      have put := members_put built free own value
      obtain ⟨filled, size, members⟩ := ih
        (fun member among => coded _ (List.mem_cons_of_mem _ among)) (built.put free own value)
        (by rw [put.length_eq, size_put, List.length_cons]; omega)
      exact ⟨filled, size.trans (size_put ..),
        members.trans ((put.append_right rest).trans List.perm_middle.symm)⟩

/-- Doubling ends above the count, at a power of two. -/
theorem sizeAbove_spec {steps bits count : Nat} (enough : count < 2 ^ (bits + steps)) :
    ∃ more, sizeAbove steps (2 ^ bits) count = 2 ^ more ∧ count < 2 ^ more := by
  induction steps generalizing bits with
  | zero => exact ⟨bits, rfl, enough⟩
  | succ steps ih =>
      rw [sizeAbove]
      split
      · rw [← pow_succ']
        exact ih (by rwa [Nat.add_right_comm])
      · exact ⟨bits, rfl, by omega⟩

/-- A table that has grown keeps its members and has room for more. -/
theorem grown_spec (built : table.IsBuilt) {count : Nat} (positive : 0 < count)
    (fewer : table.members.length ≤ count) :
    (table.grown count).IsBuilt ∧ (table.grown count).members.Perm table.members ∧
      count * 5 < ((table.grown count).size - 1) * 3 := by
  rw [grown]
  generalize leastIs : (if count > 50000 then count * 2 else count * 4) = least
  have atLeast : count * 2 ≤ least := by split at leastIs <;> omega
  have enough : least < 2 ^ (3 + least) :=
    Nat.lt_two_pow_self.trans_le (Nat.pow_le_pow_right two_pos (Nat.le_add_left least 3))
  obtain ⟨bits, size, above⟩ := sizeAbove_spec enough
  have started : sizeAbove least leastSize least = 2 ^ bits := size
  dsimp only
  rw [started]
  obtain ⟨filled, filledSize, members⟩ := putAll built.coded (isBuilt_empty bits)
    (by rw [members_empty, size_empty, List.length_nil]; omega)
  rw [size_empty] at filledSize
  rw [members_empty, List.nil_append] at members
  exact ⟨filled, members, by rw [filledSize]; omega⟩

/-- A table that has got another member grows if it is too full. -/
theorem grown_if_full (built : table.IsBuilt) {count : Nat} (positive : 0 < count)
    (fewer : table.members.length ≤ count) :
    let ready := if count * 5 < (table.size - 1) * 3 then table else table.grown count
    ready.IsBuilt ∧ ready.members.Perm table.members ∧ count * 5 < (ready.size - 1) * 3 := by
  dsimp only
  split
  · next room => exact ⟨built, .rfl, room⟩
  · exact grown_spec built positive fewer

end Table

/-- A small residue has a code. -/
theorem codeOf_lt {residue : Nat} (small : residue < modulus) (negative : Bool) :
    codeOf negative residue < codes := by
  have less : modulus < codes := by decide
  have positive : 2 < codes := by decide
  rw [codeOf]
  split
  · omega
  · split
    · next signed =>
        have : residue ≠ 0 := by
          rintro rfl
          simp at signed
        omega
    · omega

/-- The code of a value is one of those that there are. -/
theorem code?_lt {value : Value} {code : Nat} (found : code? value = some code) : code < codes := by
  have positive : 0 < modulus := by decide
  unfold code? at found
  split at found
  · next b =>
      obtain rfl := Option.some.inj found
      cases b <;> decide
  · obtain rfl := Option.some.inj found
    exact codeOf_lt (Nat.mod_lt _ positive) _
  · split at found
    · obtain rfl := Option.some.inj found
      exact codeOf_lt (Nat.mod_lt _ positive) _
    · split at found
      · cases found
      · obtain rfl := Option.some.inj found
        exact codeOf_lt (by decide) _
  · cases found

namespace Table

variable {table : Table}

/-- What a table lists in the end are its members, the values kept aside and those put into it. The
induction is on the values, and what carries it is that the table keeps free places: it is filled to
less than three fifths. -/
theorem fill_perm (built : table.IsBuilt) {count : Nat} (fewer : table.members.length ≤ count)
    (room : count * 5 < (table.size - 1) * 3) (aside values : List Value) :
    (table.fill count aside values).Perm (table.members.map (·.2) ++ (aside ++ values)) := by
  induction values generalizing table count aside with
  | nil =>
      rw [List.append_nil]
      exact (List.reverse_perm aside).append_left _
  | cons value rest ih =>
      rw [fill]
      cases found : code? value with
      | none =>
          have more : table.members.length ≤ count + 1 := fewer.trans count.le_succ
          obtain ⟨ready, members, room⟩ := grown_if_full built count.succ_pos more
          refine (ih ready (members.length_eq.trans_le more) room _).trans ?_
          exact (members.map _).append List.perm_middle.symm
      | some code =>
          have free : table.members.length < table.size := by omega
          have coded := code?_lt found
          have put := members_put built free coded value
          have more : (table.put code value).members.length ≤ count + 1 := by
            rw [put.length_eq]
            exact Nat.succ_le_succ fewer
          obtain ⟨ready, members, room⟩ :=
            grown_if_full (built.put free coded value) count.succ_pos more
          refine (ih ready (members.length_eq.trans_le more) room aside).trans ?_
          -- the new member moves from the front of the members to the front of what is to come
          refine (((members.trans put).map _).append_right _).trans ?_
          exact List.perm_middle.symm.trans (List.perm_middle.symm.append_left _)

end Table

end Scatter

/-- **A set shows what it was given**: in an order of its own, but no member is lost and none comes
up twice. -/
theorem scattered_perm (values : List Value) : (scattered values).Perm values := by
  have none : (Scatter.Table.empty Scatter.leastSize).members.length ≤ 0 := by
    rw [Scatter.Table.members_empty, List.length_nil]
  have room : 0 * 5 < ((Scatter.Table.empty Scatter.leastSize).size - 1) * 3 := by
    rw [Scatter.Table.size_empty]
    decide
  have filled := Scatter.Table.fill_perm (Scatter.Table.isBuilt_empty 3) none room [] values
  rwa [Scatter.Table.members_empty] at filled

end Hexwire.Value
