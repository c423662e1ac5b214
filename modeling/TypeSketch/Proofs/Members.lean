import Mathlib.Data.List.Induction
import TypeSketch.Json.Value

/-!
# Repeated keys

* `Members.Settles pairs members` : the members have the keys of the pairs in the order of their first
  places, each with the value of its last place;
* `settles_ofPairs`, `Settles.eq_ofPairs` : setting the pairs one after the other gives just these
  members.
-/

namespace TypeSketch.Json.Members

variable {α : Type}

/-! ## One pair -/

theorem keys_put (key : String) (value : α) (members : List (String × α)) :
    (put key value members).map Prod.fst =
      if key ∈ members.map Prod.fst then members.map Prod.fst else members.map Prod.fst ++ [key] := by
  induction members with
  | nil => simp [put]
  | cons member rest ih =>
    obtain ⟨k, v⟩ := member
    rw [put]
    by_cases hk : k = key
    · simp [hk]
    · rw [if_neg hk, List.map_cons, ih]
      simp only [List.map_cons, List.mem_cons, Ne.symm hk, false_or]
      split <;> rfl

theorem nodup_keys_put {key : String} {value : α} {members : List (String × α)}
    (h : (members.map Prod.fst).Nodup) : ((put key value members).map Prod.fst).Nodup := by
  rw [keys_put]
  split
  · exact h
  · next hk =>
    rw [List.nodup_append]
    exact ⟨h, by simp, by rintro a ha b hb rfl; exact hk (List.mem_singleton.1 hb ▸ ha)⟩

/-- Setting a key leaves the other members as they are. -/
theorem mem_put {key : String} {value : α} {members : List (String × α)} (h : (members.map Prod.fst).Nodup)
    {member : String × α} (hm : member ∈ put key value members) :
    member = (key, value) ∨ (member ∈ members ∧ member.1 ≠ key) := by
  induction members with
  | nil => exact .inl (by simpa [put] using hm)
  | cons first rest ih =>
    obtain ⟨k, v⟩ := first
    rw [List.map_cons, List.nodup_cons] at h
    rw [put] at hm
    split at hm
    · next hk =>
      rcases List.mem_cons.1 hm with rfl | hm
      · exact .inl rfl
      · refine .inr ⟨List.mem_cons_of_mem _ hm, fun e => h.1 ?_⟩
        exact List.mem_map.2 ⟨member, hm, e.trans hk.symm⟩
    · next hk =>
      rcases List.mem_cons.1 hm with rfl | hm
      · exact .inr ⟨List.mem_cons_self, hk⟩
      · rcases ih h.2 hm with e | ⟨hm, hne⟩
        · exact .inl e
        · exact .inr ⟨List.mem_cons_of_mem _ hm, hne⟩

/-! ## All pairs -/

/-- The members have the keys of the pairs in the order of their first places, each with the value of
its last place. -/
structure Settles (pairs members : List (String × α)) : Prop where
  keys : members.map Prod.fst = (pairs.map Prod.fst).eraseDups
  last : ∀ member ∈ members, pairs.reverse.lookup member.1 = some member.2

theorem ofPairs_append (pairs : List (String × α)) (pair : String × α) :
    ofPairs (pairs ++ [pair]) = put pair.1 pair.2 (ofPairs pairs) := by
  simp [ofPairs]

theorem nodup_keys_ofPairs (pairs : List (String × α)) : ((ofPairs pairs).map Prod.fst).Nodup := by
  induction pairs using List.reverseRecOn with
  | nil => simp [ofPairs]
  | append_singleton pairs pair ih =>
    rw [ofPairs_append]
    exact nodup_keys_put ih

theorem eraseDups_append_singleton (keys : List String) (key : String) :
    (keys ++ [key]).eraseDups = if key ∈ keys then keys.eraseDups else keys.eraseDups ++ [key] := by
  rw [List.eraseDups_append]
  by_cases h : key ∈ keys <;> simp [List.removeAll, h, List.eraseDups_cons]

/-- **Setting the pairs one after the other** keeps a key where it came first and forgets all but its
last value. -/
theorem settles_ofPairs (pairs : List (String × α)) : Settles pairs (ofPairs pairs) := by
  -- What holds of the pairs set so far holds after one more, which the last place of its key is.
  induction pairs using List.reverseRecOn with
  | nil => exact ⟨rfl, by simp [ofPairs]⟩
  | append_singleton pairs pair ih =>
    obtain ⟨key, value⟩ := pair
    rw [ofPairs_append]
    constructor
    · rw [keys_put, ih.keys, List.map_append, List.map_singleton, eraseDups_append_singleton]
      simp only [List.mem_eraseDups]
    · intro member hm
      rw [List.reverse_append, List.reverse_singleton, List.singleton_append, List.lookup_cons]
      rcases mem_put (nodup_keys_ofPairs pairs) hm with rfl | ⟨hm, hne⟩
      · simp
      · rw [ih.last member hm, beq_false_of_ne hne]

theorem Settles.eq_ofPairs {pairs members : List (String × α)} (h : Settles pairs members) :
    members = ofPairs pairs := by
  have h' := settles_ofPairs pairs
  have keys : members.map Prod.fst = (ofPairs pairs).map Prod.fst := h.keys.trans h'.keys.symm
  have length : members.length = (ofPairs pairs).length := by simpa using congrArg List.length keys
  refine List.ext_getElem length fun i hi hi' => ?_
  have key : (members[i]).1 = ((ofPairs pairs)[i]).1 := by
    have := List.getElem_of_eq keys (by simpa using hi)
    simpa using this
  have value : some (members[i]).2 = some ((ofPairs pairs)[i]).2 := by
    rw [← h.last _ (List.getElem_mem hi), ← h'.last _ (List.getElem_mem hi'), key]
  exact Prod.ext key (Option.some.inj value)

theorem settles_iff {pairs members : List (String × α)} : Settles pairs members ↔ members = ofPairs pairs :=
  ⟨Settles.eq_ofPairs, fun h => h ▸ settles_ofPairs pairs⟩

theorem mem_of_mem_ofPairs {pairs : List (String × α)} {member : String × α} (h : member ∈ ofPairs pairs) :
    member ∈ pairs := by
  induction pairs using List.reverseRecOn with
  | nil => exact absurd h List.not_mem_nil
  | append_singleton pairs pair ih =>
    rw [ofPairs_append] at h
    rw [List.mem_append, List.mem_singleton]
    rcases mem_put (nodup_keys_ofPairs pairs) h with e | ⟨h, -⟩
    · exact .inr e
    · exact .inl (ih h)

theorem put_of_notMem {key : String} (value : α) {members : List (String × α)} (h : key ∉ members.map Prod.fst) :
    put key value members = members ++ [(key, value)] := by
  induction members with
  | nil => rfl
  | cons member rest ih =>
    rw [List.map_cons, List.mem_cons, not_or] at h
    rw [put, if_neg (Ne.symm h.1), ih h.2, List.cons_append]

/-- Pairs without a repeated key are members as they stand. -/
theorem ofPairs_of_nodup {pairs : List (String × α)} (h : (pairs.map Prod.fst).Nodup) : ofPairs pairs = pairs := by
  induction pairs using List.reverseRecOn with
  | nil => rfl
  | append_singleton pairs pair ih =>
    rw [List.map_append, List.map_singleton, List.nodup_append] at h
    have new : pair.1 ∉ pairs.map Prod.fst := fun mem => h.2.2 _ mem _ (List.mem_singleton.2 rfl) rfl
    rw [ofPairs_append, ih h.1, put_of_notMem _ new]

example : Settles [("b", 1), ("a", 2), ("b", 3)] [("b", 3), ("a", 2)] := settles_iff.2 (by decide)

end TypeSketch.Json.Members
