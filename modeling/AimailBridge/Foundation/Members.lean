import AimailBridge.Foundation.Json

/-!
# Members in key order

A map that is kept in the order of its keys, as the list of its entries: what is inserted goes to
its place, and takes the place of an entry with the same key.
-/

namespace Foundation

variable {α : Type}

/-- The entries stand in strictly ascending order of their keys. -/
def Ascending (members : List (Text × α)) : Prop :=
  members.Pairwise fun left right => left.1 < right.1

/-- Insert an entry at its place. -/
def insertMember (key : Text) (value : α) : List (Text × α) → List (Text × α)
  | [] => [(key, value)]
  | member :: members =>
      if key < member.1 then (key, value) :: member :: members
      else if key = member.1 then (key, value) :: members
      else member :: insertMember key value members

/-- The map that a list of entries fills, one after the other. -/
def collect (listed : List (Text × α)) : List (Text × α) :=
  listed.foldl (fun members member => insertMember member.1 member.2 members) []

variable {key : Text} {value : α} {members : List (Text × α)}

theorem key_of_mem_insertMember {member : Text × α}
    (inserted : member ∈ insertMember key value members) :
    member.1 = key ∨ member ∈ members := by
  induction members with
  | nil =>
      rw [insertMember, List.mem_singleton] at inserted
      exact Or.inl (congrArg Prod.fst inserted)
  | cons first members induction =>
      rw [insertMember] at inserted
      split at inserted
      · rcases List.mem_cons.mp inserted with rfl | old
        · exact Or.inl rfl
        · exact Or.inr old
      · split at inserted
        · rcases List.mem_cons.mp inserted with rfl | old
          · exact Or.inl rfl
          · exact Or.inr (List.mem_cons_of_mem first old)
        · rcases List.mem_cons.mp inserted with rfl | later
          · exact Or.inr List.mem_cons_self
          · exact (induction later).imp_right (List.mem_cons_of_mem first)

theorem ascending_insertMember (ascending : Ascending members) :
    Ascending (insertMember key value members) := by
  induction members with
  | nil => exact List.pairwise_singleton _ _
  | cons first members induction =>
      obtain ⟨above, rest⟩ := List.pairwise_cons.mp ascending
      rw [insertMember]
      split
      · next below =>
          refine List.pairwise_cons.mpr ⟨fun other member => ?_, ascending⟩
          rcases List.mem_cons.mp member with rfl | later
          · exact below
          · exact lt_trans below (above other later)
      · split
        · next same =>
            refine List.pairwise_cons.mpr ⟨fun other member => ?_, rest⟩
            exact same ▸ above other member
        · next not_below different =>
            refine List.pairwise_cons.mpr ⟨fun other member => ?_, induction rest⟩
            rcases key_of_mem_insertMember member with same | old
            · rw [same]
              exact lt_of_le_of_ne (not_lt.mp not_below) fun equal => different equal.symm
            · exact above other old

/-- An entry below all others goes to the front. -/
theorem insertMember_front (below : ∀ member ∈ members, key < member.1) :
    insertMember key value members = (key, value) :: members := by
  cases members with
  | nil => rfl
  | cons first members => rw [insertMember, if_pos (below first List.mem_cons_self)]

/-- An entry above all others goes to the end. -/
theorem insertMember_back (above : ∀ member ∈ members, member.1 < key) :
    insertMember key value members = members ++ [(key, value)] := by
  induction members with
  | nil => rfl
  | cons first members induction =>
      have before := above first List.mem_cons_self
      rw [insertMember, if_neg (lt_asymm before), if_neg (ne_of_gt before),
        induction fun member later => above member (List.mem_cons_of_mem first later)]
      rfl

/-- Dropping entries by their keys commutes with inserting. -/
theorem filter_insertMember (keep : Text → Bool) (ascending : Ascending members) :
    (insertMember key value members).filter (fun member => keep member.1) =
      if keep key then insertMember key value (members.filter fun member => keep member.1)
      else members.filter fun member => keep member.1 := by
  induction members with
  | nil =>
      rw [insertMember, List.filter_cons, List.filter_nil, insertMember]
  | cons first members induction =>
      obtain ⟨above, rest⟩ := List.pairwise_cons.mp ascending
      rw [insertMember]
      split
      · next below =>
          have all_below : ∀ member ∈ (first :: members).filter (fun member => keep member.1),
              key < member.1 := by
            intro member kept
            rcases List.mem_cons.mp (List.mem_of_mem_filter kept) with rfl | later
            · exact below
            · exact lt_trans below (above member later)
          rw [insertMember_front all_below, List.filter_cons]
      · split
        · next not_below same =>
            have all_below : ∀ member ∈ members.filter (fun member => keep member.1),
                key < member.1 := fun member kept =>
              same ▸ above member (List.mem_of_mem_filter kept)
            rw [List.filter_cons, List.filter_cons, ← same]
            cases kept : keep key with
            | true => simp [insertMember, same]
            | false => simp
        · next not_below different =>
            rw [List.filter_cons, List.filter_cons, induction rest]
            cases kept : keep first.1 with
            | true =>
                cases keep key with
                | true => simp [insertMember, not_below, different]
                | false => simp
            | false => simp

theorem ascending_foldl {listed : List (Text × α)} (ascending : Ascending members) :
    Ascending (listed.foldl (fun members member => insertMember member.1 member.2 members)
      members) := by
  induction listed generalizing members with
  | nil => exact ascending
  | cons member listed induction => exact induction (ascending_insertMember ascending)

theorem ascending_collect (listed : List (Text × α)) : Ascending (collect listed) :=
  ascending_foldl List.Pairwise.nil

/-- Entries in order fill the map as they are listed. -/
theorem collect_of_ascending {listed : List (Text × α)} (ascending : Ascending listed) :
    collect listed = listed := by
  have loop : ∀ members : List (Text × α), Ascending (members ++ listed) →
      listed.foldl (fun members member => insertMember member.1 member.2 members) members =
        members ++ listed := by
    clear ascending
    induction listed with
    | nil => exact fun members _ => (List.append_nil members).symm
    | cons member listed induction =>
        intro members ordered
        have above : ∀ other ∈ members, other.1 < member.1 := fun other earlier =>
          (List.pairwise_append.mp ordered).2.2 other earlier member List.mem_cons_self
        rw [List.foldl_cons, insertMember_back above, induction _ (by simpa using ordered)]
        simp
  exact loop [] ascending

/-- Dropping entries by their keys commutes with filling the map. -/
theorem collect_filter (keep : Text → Bool) (listed : List (Text × α)) :
    collect (listed.filter fun member => keep member.1) =
      (collect listed).filter fun member => keep member.1 := by
  have loop : ∀ members : List (Text × α), Ascending members →
      (listed.filter fun member => keep member.1).foldl
          (fun members member => insertMember member.1 member.2 members)
          (members.filter fun member => keep member.1) =
        (listed.foldl (fun members member => insertMember member.1 member.2 members)
          members).filter fun member => keep member.1 := by
    induction listed with
    | nil => exact fun _ _ => rfl
    | cons member listed induction =>
        intro members ascending
        rw [List.foldl_cons, ← induction _ (ascending_insertMember ascending),
          filter_insertMember keep ascending, List.filter_cons]
        cases keep member.1 <;> rfl
  exact loop [] List.Pairwise.nil

end Foundation
