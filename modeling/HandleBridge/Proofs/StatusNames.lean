import HandleBridge.Proofs.Hex
import HandleBridge.Status

/-!
# Proofs/StatusNames — a name identifies its status

The symbolic names are a table of sixteen; every other status is named by `Rc` and its digits.  No
symbolic name begins with `Rc`, so a name tells which of the two it is, and either way it reads back
(`ofName?_name`).
-/

namespace HandleBridge.Status

/-! ## The table -/

theorem nodup_names : (named.map Prod.snd).Nodup := by decide

theorem name_of_mem : ∀ e ∈ named, e.1.name = e.2 := by decide

theorem ofName?_of_mem : ∀ e ∈ named, ofName? e.2 = some e.1 := by decide

/-! ## The digits -/

variable {a b : Status} (s : Status)

theorem toList_digits : s.digits.toList = Hex.fixed 8 s.raw.toNat := String.toList_ofList

theorem length_digits : s.digits.toList.length = 8 := by
  rw [toList_digits, Hex.length_fixed]

theorem value?_digits : Hex.value? s.digits.toList = some s.raw.toNat := by
  rw [toList_digits]
  exact Hex.value?_fixed s.raw.toNat_lt

/-- **What is written by digits is no symbolic name**, since none begins with `Rc`. -/
theorem digits_not_mem_names : "Rc" ++ s.digits ∉ named.map Prod.snd := by
  have hsymbolic : ∀ e ∈ named, ¬ "Rc".toList <+: e.2.toList := by decide
  intro hmem
  obtain ⟨e, he, htext⟩ := List.mem_map.1 hmem
  refine hsymbolic e he ?_
  rw [htext, String.toList_append]
  exact List.prefix_append _ _

theorem ofName?_digits : ofName? ("Rc" ++ s.digits) = some s := by
  have hnone : named.find? (·.2 = "Rc" ++ s.digits) = none := by
    refine List.find?_eq_none.2 fun e he htext => s.digits_not_mem_names ?_
    exact List.mem_map.2 ⟨e, he, of_decide_eq_true htext⟩
  have htext : ("Rc" ++ s.digits).toList = 'R' :: 'c' :: s.digits.toList := String.toList_append
  have hraw : UInt32.ofNat s.raw.toNat = s.raw := UInt32.ofNat_toNat
  simp only [ofName?, hnone, htext, length_digits, value?_digits, if_pos, Option.map_some, hraw]

/-! ## Names -/

/-- **A status reads back from its name.** -/
theorem ofName?_name : ofName? s.name = some s := by
  obtain hmem | ⟨-, hname⟩ := s.name_cases
  · exact ofName?_of_mem _ hmem
  · rw [hname, ofName?_digits]

theorem name_inj : a.name = b.name ↔ a = b := by
  refine ⟨fun h => Option.some.inj ?_, congrArg name⟩
  rw [← ofName?_name, ← ofName?_name, h]

theorem digits_inj : "Rc" ++ a.digits = "Rc" ++ b.digits ↔ a = b := by
  refine ⟨fun h => Option.some.inj ?_, fun h => h ▸ rfl⟩
  rw [← ofName?_digits, ← ofName?_digits, h]

end HandleBridge.Status
