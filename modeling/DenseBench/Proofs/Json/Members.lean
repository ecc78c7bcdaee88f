import DenseBench.Json.Basic
import DenseBench.Members
import Mathlib.Data.List.Induction
import Mathlib.Data.List.Nodup

/-!
# The members of an object

An object may be written with a key more than once.  What it holds at a key is then the last value,
so that it is the same object as that of its distinct members; what else it holds, and in which
order, does not matter.
-/

namespace DenseBench

namespace Json

/-- The members of an object have this value at this key: of the members with the key, the last one
counts. -/
def Holds (members : List (String × Json)) (key : String) (value : Json) : Prop :=
  ∃ before after, members = before ++ (key, value) :: after ∧ ∀ member ∈ after, member.1 ≠ key

theorem lookup_eq_find? (key : String) (members : List (String × Json)) :
    lookup key members = (members.reverse.find? fun member => member.1 = key).map Prod.snd := by
  induction members using List.reverseRecOn with
  | nil => rfl
  | append_singleton members member ih =>
      have step : lookup key (members ++ [member]) =
          if member.1 = key then some member.2 else lookup key members := by
        simp [lookup, List.foldl_append]
      rw [step, ih, List.reverse_append, List.reverse_singleton, List.singleton_append,
        List.find?_cons]
      by_cases same : member.1 = key <;> simp [same]

theorem lookup_eq_some_iff {key : String} {value : Json} {members : List (String × Json)} :
    lookup key members = some value ↔ Holds members key value := by
  rw [lookup_eq_find?, Option.map_eq_some_iff]
  constructor
  · rintro ⟨⟨name, value⟩, found, rfl⟩
    obtain ⟨same, after, before, split, others⟩ := List.find?_eq_some_iff_append.mp found
    obtain rfl : name = key := by simpa using same
    refine ⟨before.reverse, after.reverse, ?_, ?_⟩
    · rw [← List.reverse_reverse members, split]
      simp
    · intro member later
      simpa using others member (List.mem_reverse.mp later)
  · rintro ⟨before, after, rfl, others⟩
    refine ⟨(key, value), ?_, rfl⟩
    rw [List.find?_eq_some_iff_append]
    refine ⟨by simp, after.reverse, before.reverse, by simp, ?_⟩
    intro member later
    simpa using others member (List.mem_reverse.mp later)

/-- Where no key is used twice, every member counts. -/
theorem holds_iff_mem {key : String} {value : Json} {members : List (String × Json)}
    (distinct : (members.map Prod.fst).Nodup) :
    Holds members key value ↔ (key, value) ∈ members := by
  constructor
  · rintro ⟨before, after, rfl, -⟩
    simp
  · exact Members.append_of_mem distinct

/-- Where no key is used twice, the order of the members does not matter. -/
theorem holds_perm {key : String} {value : Json} {members others : List (String × Json)}
    (distinct : (members.map Prod.fst).Nodup) (same : members.Perm others) :
    Holds members key value ↔ Holds others key value := by
  rw [holds_iff_mem distinct, holds_iff_mem ((same.map Prod.fst).nodup distinct), same.mem_iff]

/-- A member with another key does not matter. -/
theorem holds_insert_of_ne {key other : String} {value : Json} (ignored : Json)
    (before after : List (String × Json)) (different : other ≠ key) :
    Holds (before ++ (other, ignored) :: after) key value ↔ Holds (before ++ after) key value := by
  simp only [← lookup_eq_some_iff, lookup_eq_find?, List.reverse_append, List.reverse_cons,
    List.append_assoc, List.find?_append, List.find?_singleton, different, decide_false,
    Bool.false_eq_true, if_false, Option.none_or]

theorem exists_lookup_of_mem {key : String} {members : List (String × Json)}
    (member : key ∈ members.map Prod.fst) : ∃ value, lookup key members = some value := by
  obtain ⟨⟨name, value⟩, present, rfl⟩ := List.mem_map.mp member
  have found : (members.reverse.find? fun other => other.1 = name).isSome := by
    rw [List.find?_isSome]
    exact ⟨(name, value), List.mem_reverse.mpr present, by simp⟩
  obtain ⟨last, found⟩ := Option.isSome_iff_exists.mp found
  exact ⟨last.2, by rw [lookup_eq_find?, found, Option.map_some]⟩

theorem map_fst_distinctMembers (members : List (String × Json)) :
    (distinctMembers members).map Prod.fst = (members.map Prod.fst).eraseDups := by
  have kept : ∀ key ∈ (members.map Prod.fst).eraseDups,
      ((lookup key members).map fun value => (key, value)).map Prod.fst = some key := by
    intro key member
    obtain ⟨value, found⟩ := exists_lookup_of_mem (List.mem_eraseDups.mp member)
    rw [found]
    rfl
  rw [distinctMembers, List.map_filterMap, List.filterMap_congr kept, List.filterMap_some]

/-- The members that are left are those that count. -/
theorem mem_distinctMembers_iff {key : String} {value : Json} {members : List (String × Json)} :
    (key, value) ∈ distinctMembers members ↔ Holds members key value := by
  rw [← lookup_eq_some_iff, distinctMembers, List.mem_filterMap]
  constructor
  · rintro ⟨name, -, mapped⟩
    obtain ⟨last, found, same⟩ := Option.map_eq_some_iff.mp mapped
    obtain ⟨rfl, rfl⟩ := Prod.mk.inj same
    exact found
  · intro found
    refine ⟨key, ?_, by rw [found]; rfl⟩
    obtain ⟨before, after, rfl, -⟩ := lookup_eq_some_iff.mp found
    simp

theorem nodup_eraseDups (keys : List String) : keys.eraseDups.Nodup := by
  induction length : keys.length using Nat.strongRecOn generalizing keys with
  | _ count ih =>
      cases keys with
      | nil => simp
      | cons key rest =>
          rw [List.eraseDups_cons, List.nodup_cons]
          refine ⟨by simp, ih _ ?_ _ rfl⟩
          -- what is left of the rest is no longer than the rest
          have shorter := List.length_filter_le (fun name => !name == key) rest
          rw [List.length_cons] at length
          omega

theorem eraseDups_of_nodup {keys : List String} (distinct : keys.Nodup) :
    keys.eraseDups = keys := by
  induction keys with
  | nil => rfl
  | cons key rest ih =>
      obtain ⟨absent, distinct⟩ := List.nodup_cons.mp distinct
      have kept : rest.filter (fun name => !name == key) = rest := by
        rw [List.filter_eq_self]
        intro name member
        simpa using ne_of_mem_of_not_mem member absent
      rw [List.eraseDups_cons, kept, ih distinct]

theorem nodup_distinctMembers (members : List (String × Json)) :
    ((distinctMembers members).map Prod.fst).Nodup := by
  rw [map_fst_distinctMembers]
  exact nodup_eraseDups _

/-- An object whose keys are made distinct holds the same values. -/
theorem lookup_distinctMembers (key : String) (members : List (String × Json)) :
    lookup key (distinctMembers members) = lookup key members := by
  apply Option.ext
  intro value
  rw [lookup_eq_some_iff, lookup_eq_some_iff, holds_iff_mem (nodup_distinctMembers members),
    mem_distinctMembers_iff]

theorem distinctMembers_distinctMembers (members : List (String × Json)) :
    distinctMembers (distinctMembers members) = distinctMembers members := by
  have keys := eraseDups_of_nodup (nodup_distinctMembers members)
  rw [distinctMembers, keys, map_fst_distinctMembers]
  simp only [lookup_distinctMembers]
  rfl

/-- An object has one key with one value if all its members have this key and the last one has the
value. -/
theorem distinctMembers_eq_singleton_iff {key : String} {value : Json}
    {members : List (String × Json)} :
    distinctMembers members = [(key, value)] ↔
      Holds members key value ∧ ∀ member ∈ members, member.1 = key := by
  constructor
  · intro single
    have keys := map_fst_distinctMembers members
    rw [single] at keys
    refine ⟨?_, ?_⟩
    · exact mem_distinctMembers_iff.mp (by simp [single])
    · intro member present
      have named : member.1 ∈ (members.map Prod.fst).eraseDups :=
        List.mem_eraseDups.mpr (List.mem_map_of_mem present)
      rw [← keys] at named
      simpa using named
  · rintro ⟨held, alone⟩
    have keys : (members.map Prod.fst).eraseDups = [key] := by
      cases members with
      | nil =>
          obtain ⟨before, after, split, -⟩ := held
          simp at split
      | cons first rest =>
          have none_other : (rest.map Prod.fst).filter (fun name => !name == key) = [] := by
            rw [List.filter_eq_nil_iff]
            intro name member
            obtain ⟨other, present, rfl⟩ := List.mem_map.mp member
            simp [alone other (List.mem_cons_of_mem first present)]
          rw [List.map_cons, alone first List.mem_cons_self, List.eraseDups_cons, none_other,
            List.eraseDups_nil]
    rw [distinctMembers, keys, List.filterMap_cons, lookup_eq_some_iff.mpr held]
    rfl

end Json
end DenseBench
