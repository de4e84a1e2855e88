import Amanuensis.Proofs.Wire.Record
import Mathlib.Data.List.Nodup
/-!
# Members in order

Members of which no two have the same key, in the order of their keys, are
known by what is found under each key (`Ascending.ext`). Members that are
collected one by one come to be such (`ascending_collect`), and of several with
one key the last is found (`lookup_collect`). The values denoted by others are
their own normal forms (`normal_normal`), because their members are in order.
-/


namespace Amanuensis

namespace Json

open Wire (valuesAt valuesAt_cons_self valuesAt_cons_of_ne valuesAt_map lookup_eq_head?)

variable {key other : String} {value : Json} {member : String × Json}
variable {members members' done : List (String × Json)}

/-! ## Members that are looked up -/

/-- Members in the order of their keys, no two of which are the same. -/
def Ascending (members : List (String × Json)) : Prop :=
  members.Pairwise fun m n => m.1 < n.1

theorem lookup_cons_self (key : String) (value : Json) (members : List (String × Json)) :
    lookup key ((key, value) :: members) = some value := by
  rw [lookup, if_pos rfl]

theorem lookup_cons_of_ne (h : key ≠ other) (value : Json) (members : List (String × Json)) :
    lookup key ((other, value) :: members) = lookup key members := by
  rw [lookup, if_neg h]

theorem mem_of_lookup (h : lookup key members = some value) : (key, value) ∈ members := by
  induction members with
  | nil => cases h
  | cons member members ih =>
    obtain ⟨other, value'⟩ := member
    by_cases hkey : key = other
    · subst hkey
      rw [lookup_cons_self] at h
      cases h
      exact List.mem_cons_self
    · rw [lookup_cons_of_ne hkey] at h
      exact List.mem_cons_of_mem _ (ih h)

theorem lookup_eq_none (h : ∀ member ∈ members, member.1 ≠ key) : lookup key members = none := by
  cases hfound : lookup key members with
  | none => rfl
  | some value => exact absurd rfl (h _ (mem_of_lookup hfound))

/-- Where no two keys are the same, every member is found under its key. -/
theorem lookup_of_mem (h : (members.map Prod.fst).Nodup) (hmem : (key, value) ∈ members) :
    lookup key members = some value := by
  induction members with
  | nil => cases hmem
  | cons member members ih =>
    obtain ⟨other, value'⟩ := member
    obtain ⟨hfresh, hrest⟩ := List.nodup_cons.1 h
    rcases List.mem_cons.1 hmem with heq | hlater
    · cases heq
      exact lookup_cons_self _ _ _
    · have hne : key ≠ other := by
        intro hkey
        exact hfresh (List.mem_map.2 ⟨_, hlater, hkey⟩)
      rw [lookup_cons_of_ne hne]
      exact ih hrest hlater

/-- And it is the only one with that key. -/
theorem valuesAt_of_nodup (h : (members.map Prod.fst).Nodup) (key : String) :
    valuesAt key members = (lookup key members).toList := by
  induction members with
  | nil => rfl
  | cons member members ih =>
    obtain ⟨other, value⟩ := member
    obtain ⟨hfresh, hrest⟩ := List.nodup_cons.1 h
    by_cases hkey : key = other
    · subst hkey
      have hnone : lookup key members = none := lookup_eq_none fun member hmember heq =>
        hfresh (List.mem_map.2 ⟨member, hmember, heq⟩)
      rw [valuesAt_cons_self, lookup_cons_self, ih hrest, hnone]
      rfl
    · rw [valuesAt_cons_of_ne (Ne.symm hkey), lookup_cons_of_ne hkey, ih hrest]

/-! ## Order -/

theorem Ascending.nodup (h : Ascending members) : (members.map Prod.fst).Nodup := by
  refine List.pairwise_map.2 (h.imp fun {m n} hlt heq => ?_)
  rw [heq] at hlt
  exact String.lt_irrefl _ hlt

/-- Of two keys that differ one comes first. -/
theorem lt_of_not_lt (h : ¬ key < other) (hne : key ≠ other) : other < key := by
  rcases Std.lt_trichotomy key other with hlt | heq | hgt
  · exact absurd hlt h
  · exact absurd heq hne
  · exact hgt

/-- **Members in order are known by what is found** under each key. -/
theorem Ascending.ext (h : Ascending members) (h' : Ascending members')
    (heq : ∀ key, lookup key members = lookup key members') : members = members' := by
  induction members generalizing members' with
  | nil =>
    cases members' with
    | nil => rfl
    | cons member' members' =>
      have hfirst := heq member'.1
      rw [lookup_cons_self] at hfirst
      cases hfirst
  | cons member members ih =>
    cases members' with
    | nil =>
      have hfirst := heq member.1
      rw [lookup_cons_self] at hfirst
      cases hfirst
    | cons member' members' =>
      obtain ⟨key, value⟩ := member
      obtain ⟨key', value'⟩ := member'
      obtain ⟨hbefore, hrest⟩ := List.pairwise_cons.1 h
      obtain ⟨hbefore', hrest'⟩ := List.pairwise_cons.1 h'
      -- each first key is found on the other side, and later keys come after it
      have hkey : key = key' := by
        by_cases hsame : key = key'
        · exact hsame
        · have hfound := (heq key).symm
          rw [lookup_cons_self, lookup_cons_of_ne hsame] at hfound
          have hfound' := heq key'
          rw [lookup_cons_self, lookup_cons_of_ne (Ne.symm hsame)] at hfound'
          exact absurd (hbefore' _ (mem_of_lookup hfound))
            (String.lt_asymm (hbefore _ (mem_of_lookup hfound')))
      subst hkey
      have hvalue := heq key
      rw [lookup_cons_self, lookup_cons_self] at hvalue
      obtain rfl := Option.some.inj hvalue
      refine congrArg _ (ih hrest hrest' fun other => ?_)
      by_cases hother : other = key
      · have hfresh := (List.nodup_cons.1 h.nodup).1
        have hfresh' := (List.nodup_cons.1 h'.nodup).1
        subst hother
        rw [lookup_eq_none fun m hm heq => hfresh (List.mem_map.2 ⟨m, hm, heq⟩),
          lookup_eq_none fun m hm heq => hfresh' (List.mem_map.2 ⟨m, hm, heq⟩)]
      · have hlater := heq other
        rwa [lookup_cons_of_ne hother, lookup_cons_of_ne hother] at hlater

/-! ## Members that are put together -/

theorem mem_insertMember (h : member ∈ insertMember key value members) :
    member = (key, value) ∨ member ∈ members := by
  induction members with
  | nil => exact .inl (List.mem_singleton.1 h)
  | cons first members ih =>
    obtain ⟨other, value'⟩ := first
    rw [insertMember] at h
    split at h
    · exact List.mem_cons.1 h
    · split at h
      · exact (List.mem_cons.1 h).imp_right (List.mem_cons_of_mem _)
      · rcases List.mem_cons.1 h with rfl | hlater
        · exact .inr List.mem_cons_self
        · exact (ih hlater).imp_right (List.mem_cons_of_mem _)

/-- A member that is put in is found, and hides none but those with its key. -/
theorem lookup_insertMember (other key : String) (value : Json) (members : List (String × Json)) :
    lookup other (insertMember key value members) =
      if other = key then some value else lookup other members := by
  induction members with
  | nil => rfl
  | cons first members ih =>
    obtain ⟨first, value'⟩ := first
    rw [insertMember]
    -- either the key that is looked for is the new one, or the new member does not matter
    by_cases hother : other = key
    · subst hother
      rw [if_pos rfl]
      rw [if_pos rfl] at ih
      split
      · exact lookup_cons_self _ _ _
      · split
        · exact lookup_cons_self _ _ _
        · rename_i hne
          rw [lookup_cons_of_ne hne, ih]
    · rw [if_neg hother]
      rw [if_neg hother] at ih
      split
      · exact lookup_cons_of_ne hother _ _
      · split
        · rename_i heq
          subst heq
          rw [lookup_cons_of_ne hother, lookup_cons_of_ne hother]
        · rw [lookup, lookup, ih]

theorem Ascending.insertMember (h : Ascending members) (key : String) (value : Json) :
    Ascending (insertMember key value members) := by
  induction members with
  | nil => exact List.pairwise_singleton _ _
  | cons first members ih =>
    obtain ⟨first, value'⟩ := first
    obtain ⟨hbefore, hrest⟩ := List.pairwise_cons.1 h
    rw [Json.insertMember]
    split
    · rename_i hlt
      refine List.pairwise_cons.2 ⟨fun member hmember => ?_, h⟩
      rcases List.mem_cons.1 hmember with rfl | hlater
      · exact hlt
      · exact String.lt_trans hlt (hbefore member hlater)
    · rename_i hnlt
      split
      · rename_i heq
        subst heq
        exact List.pairwise_cons.2 ⟨hbefore, hrest⟩
      · rename_i hne
        refine List.pairwise_cons.2 ⟨fun member hmember => ?_, ih hrest⟩
        rcases mem_insertMember hmember with rfl | hold
        · exact lt_of_not_lt hnlt hne
        · exact hbefore member hold

/-- Members added one by one to some that are there. -/
def collect (done : List (String × Json)) (members : List (String × Json)) :
    List (String × Json) :=
  members.foldl (fun done member => insertMember member.1 member.2 done) done

theorem mem_collect (h : member ∈ collect done members) : member ∈ members ∨ member ∈ done := by
  induction members generalizing done with
  | nil => exact .inr h
  | cons first members ih =>
    have hrest : member ∈ collect (insertMember first.1 first.2 done) members := h
    rcases ih hrest with hlater | hdone
    · exact .inl (List.mem_cons_of_mem _ hlater)
    · rcases mem_insertMember hdone with rfl | hold
      · exact .inl List.mem_cons_self
      · exact .inr hold

/-- They are in order if those that were there are. -/
theorem ascending_collect (h : Ascending done) (members : List (String × Json)) :
    Ascending (collect done members) := by
  induction members generalizing done with
  | nil => exact h
  | cons first members ih => exact ih (h.insertMember first.1 first.2)

/-- **Of members with one key the last is found.** -/
theorem lookup_collect (key : String) (done members : List (String × Json)) :
    lookup key (collect done members) =
      ((valuesAt key members).getLast?).or (lookup key done) := by
  induction members generalizing done with
  | nil => rfl
  | cons first members ih =>
    obtain ⟨other, value⟩ := first
    have hfirst : collect done ((other, value) :: members) =
        collect (insertMember other value done) members := rfl
    rw [hfirst, ih, lookup_insertMember]
    by_cases hkey : key = other
    · subst hkey
      rw [if_pos rfl, valuesAt_cons_self, List.getLast?_cons]
      cases (valuesAt key members).getLast? <;> rfl
    · rw [if_neg hkey, valuesAt_cons_of_ne (Ne.symm hkey)]

/-- Members that are in order already stay as they are. -/
theorem collect_eq_self (h : Ascending members) : collect [] members = members := by
  refine (ascending_collect .nil members).ext h fun key => ?_
  rw [lookup_collect, valuesAt_of_nodup h.nodup]
  cases lookup key members <;> rfl

/-- Of members no two of which have the same key none is lost. -/
theorem mem_collect_iff (h : (members.map Prod.fst).Nodup) :
    member ∈ collect [] members ↔ member ∈ members := by
  constructor
  · intro hmem
    rcases mem_collect hmem with hmember | hnone
    · exact hmember
    · cases hnone
  · intro hmem
    obtain ⟨key, value⟩ := member
    refine mem_of_lookup ?_
    rw [lookup_collect, valuesAt_of_nodup h, lookup_of_mem h hmem]
    rfl

/-! ## Objects -/

/-- The members of an object that are not left out. -/
abbrev present (members : List (String × Option Json)) : List (String × Json) :=
  members.filterMap fun m => m.2.map (m.1, ·)

theorem mem_present {members : List (String × Option Json)} :
    (key, value) ∈ present members ↔ (key, some value) ∈ members := by
  rw [List.mem_filterMap]
  constructor
  · rintro ⟨⟨key', value'⟩, hmem, heq⟩
    cases value' with
    | none => cases heq
    | some value' =>
      cases heq
      exact hmem
  · exact fun hmem => ⟨_, hmem, rfl⟩

theorem nodup_present {members : List (String × Option Json)}
    (h : (members.map Prod.fst).Nodup) : ((present members).map Prod.fst).Nodup := by
  induction members with
  | nil => exact .nil
  | cons first members ih =>
    obtain ⟨key, value⟩ := first
    obtain ⟨hfresh, hrest⟩ := List.nodup_cons.1 h
    cases value with
    | none => exact ih hrest
    | some value =>
      refine List.nodup_cons.2 ⟨fun hmem => ?_, ih hrest⟩
      obtain ⟨⟨key', value'⟩, hlater, rfl⟩ := List.mem_map.1 hmem
      exact hfresh (List.mem_map.2 ⟨_, mem_present.1 hlater, rfl⟩)

/-- An object is the members that are not left out, put together. -/
theorem ofMembers_eq (members : List (String × Option Json)) :
    ofMembers members = .obj (collect [] (present members)) := by
  rw [ofMembers]
  refine congrArg Json.obj ?_
  -- the members that are there already are arbitrary
  generalize ([] : List (String × Json)) = done
  induction members generalizing done with
  | nil => rfl
  | cons first members ih =>
    obtain ⟨key, value⟩ := first
    cases value with
    | none => exact ih done
    | some value => exact ih (insertMember key value done)

/-- Of an object whose keys are all different each member has its value, and
no other. -/
theorem valuesAt_present {members : List (String × Option Json)}
    (h : (members.map Prod.fst).Nodup) (value : Option Json) (hmem : (key, value) ∈ members) :
    valuesAt key (collect [] (present members)) = value.toList := by
  have hasc : Ascending (collect [] (present members)) := ascending_collect .nil _
  have hfound : ∀ v, lookup key (collect [] (present members)) = some v ↔
      (key, some v) ∈ members := by
    intro v
    rw [← mem_present, ← mem_collect_iff (nodup_present h)]
    exact ⟨mem_of_lookup, lookup_of_mem hasc.nodup⟩
  rw [valuesAt_of_nodup hasc.nodup]
  refine congrArg Option.toList (Option.ext fun v => (hfound v).trans ?_)
  constructor
  · intro hv
    exact (Prod.mk.inj (List.inj_on_of_nodup_map h hmem hv rfl)).2
  · rintro rfl
    exact hmem

/-- Under any other key there is nothing. -/
theorem valuesAt_present_of_not_mem {members : List (String × Option Json)}
    (h : key ∉ members.map Prod.fst) : valuesAt key (collect [] (present members)) = [] := by
  have hasc : Ascending (collect [] (present members)) := ascending_collect .nil _
  rw [valuesAt_of_nodup hasc.nodup, lookup_eq_none, Option.toList_none]
  rintro ⟨key', value⟩ hmember rfl
  rcases mem_collect hmember with hpresent | hnone
  · exact h (List.mem_map.2 ⟨_, mem_present.1 hpresent, rfl⟩)
  · cases hnone

theorem get?_ofMembers {members : List (String × Option Json)} (h : (members.map Prod.fst).Nodup)
    {value : Option Json} (hmem : (key, value) ∈ members) :
    (ofMembers members).get? key = value := by
  rw [ofMembers_eq, get?, lookup_eq_head?, valuesAt_present h _ hmem]
  cases value <;> rfl

/-! ## Normal forms -/

theorem normalItems_eq (items : List Json) : normalItems items = items.map normal := by
  induction items with
  | nil => rfl
  | cons j items ih => rw [normalItems, ih, List.map_cons]

theorem normalMembers_eq (done members : List (String × Json)) :
    normalMembers done members = collect done (members.map fun m => (m.1, m.2.normal)) := by
  induction members generalizing done with
  | nil => rfl
  | cons first members ih =>
    obtain ⟨key, value⟩ := first
    rw [normalMembers, ih]
    rfl

/-- What is found in the normal form of an object: the last value with the
key. -/
theorem get?_normal (key : String) (members : List (String × Json)) :
    (normal (.obj members)).get? key = (valuesAt key members).getLast?.map normal := by
  rw [normal, get?, normalMembers_eq, lookup_collect, valuesAt_map, List.getLast?_map]
  exact Option.or_none

mutual

/-- **A normal form is its own normal form.** -/
theorem normal_normal : (j : Json) → j.normal.normal = j.normal
  | .null | .bool _ | .num _ | .str _ => rfl
  | .arr items => by
    simp only [normal, normalItems_eq, List.map_map]
    exact congrArg _ (List.map_congr_left (normal_normalItems items))
  | .obj members => by
    have hasc : Ascending (normalMembers [] members) := by
      rw [normalMembers_eq]
      exact ascending_collect .nil _
    have hsame : ((normalMembers [] members).map fun m => (m.1, m.2.normal)) =
        normalMembers [] members := by
      refine (List.map_congr_left fun m hm => ?_).trans (List.map_id _)
      rw [normalMembers_eq] at hm
      rcases mem_collect hm with hmem | hnone
      · obtain ⟨m', hm', rfl⟩ := List.mem_map.1 hmem
        exact Prod.ext rfl (normal_normalMembers members m' hm')
      · cases hnone
    rw [normal, normal, normalMembers_eq, hsame, collect_eq_self hasc]

theorem normal_normalItems : (items : List Json) → ∀ j ∈ items, j.normal.normal = j.normal
  | [] => nofun
  | j :: items => List.forall_mem_cons.2 ⟨normal_normal j, normal_normalItems items⟩

theorem normal_normalMembers :
    (members : List (String × Json)) → ∀ m ∈ members, m.2.normal.normal = m.2.normal
  | [] => nofun
  | (_, value) :: members =>
    List.forall_mem_cons.2 ⟨normal_normal value, normal_normalMembers members⟩

end

end Json

end Amanuensis
