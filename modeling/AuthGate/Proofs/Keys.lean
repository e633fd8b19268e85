import Mathlib.Data.Set.Card
import Std.Data.ExtTreeMap

namespace AuthGate

variable {β : Type} (m : Std.ExtTreeMap String β)

theorem setOf_mem_eq_coe_keys : {key | key ∈ m} = ↑m.keys.toFinset := by
  ext key
  simp

/-- The keys of a map are finitely many, and its size is their number. -/
theorem finite_keys : {key | key ∈ m}.Finite := by
  rw [setOf_mem_eq_coe_keys]
  exact Finset.finite_toSet _

theorem ncard_keys : {key | key ∈ m}.ncard = m.size := by
  rw [setOf_mem_eq_coe_keys, Set.ncard_coe_finset,
    List.toFinset_card_of_nodup Std.ExtTreeMap.nodup_keys, Std.ExtTreeMap.length_keys]

/-- What a filter takes from a map is as many keys as the map gets smaller by. -/
theorem ncard_filtered (keep : String → β → Bool) :
    {key | key ∈ m ∧ key ∉ m.filter keep}.ncard = m.size - (m.filter keep).size := by
  rw [← ncard_keys, ← ncard_keys, ← Set.ncard_sdiff ?_ (finite_keys _)]
  · rfl
  · exact fun key hkey => Std.ExtTreeMap.mem_of_mem_filter hkey

end AuthGate
